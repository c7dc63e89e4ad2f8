import MailMerge.Shell.Utility.Place

/-! Digests and checksums of bytes. -/

namespace MailMerge.Shell.Digest

open Work

/-! ### Words -/

/-- Whether the first byte of a word counts most. -/
inductive ByteOrder where
  | most
  | least
  deriving DecidableEq

/-- The number that bytes stand for. -/
def ByteOrder.value (order : ByteOrder) (bytes : List UInt8) : Nat :=
  match order with
  | most => bytes.foldl (fun value byte => value * 256 + byte.toNat) 0
  | least => bytes.foldr (fun byte value => value * 256 + byte.toNat) 0

/-- So many bytes that stand for a number. -/
def ByteOrder.bytes (order : ByteOrder) (size value : Nat) : List UInt8 :=
  let bytes := (List.range size).map fun i => (value / Nat.pow 256 i % 256).toUInt8
  match order with
  | most => bytes.reverse
  | least => bytes

/-- Groups of so many bytes; the number bounds how many there are. -/
def blocks (size : Nat) : Nat → List UInt8 → List (List UInt8)
  | 0, _ | _, [] => []
  | fuel + 1, bytes => bytes.take size :: blocks size fuel (bytes.drop size)

/-- A message filled up to whole blocks: a mark, zeros, and its size in bits. -/
def filled (order : ByteOrder) (blockSize sizeBytes : Nat) (message : List UInt8)
    : List (List UInt8) :=
  let used := message.length + 1 + sizeBytes
  let zeros := (blockSize - used % blockSize) % blockSize
  let whole :=
    message ++ [0x80] ++ List.replicate zeros 0 ++ order.bytes sizeBytes (message.length * 8)
  blocks blockSize (whole.length + 1) whole

/-- The words of a block. -/
def wordsOf (order : ByteOrder) (size : Nat) (block : List UInt8) : List Nat :=
  (blocks size (block.length + 1) block).map order.value

def hexText (bytes : List UInt8) : String :=
  String.ofList <| bytes.flatMap fun byte =>
    let digits := Nat.toDigits 16 byte.toNat
    List.replicate (2 - digits.length) '0' ++ digits

/-! ### Roots -/

/-- The greatest number whose power does not pass a limit, found bit by bit. -/
def root (power limit : Nat) : Nat → Nat → Nat
  | 0, found => found
  | bits + 1, found =>
      let next := found + Nat.pow 2 bits
      root power limit bits (if Nat.pow next power ≤ limit then next else found)

def isPrime (n : Nat) : Bool :=
  2 ≤ n && (List.range n).all fun d => d < 2 || n % d ≠ 0

/-- The first prime numbers. -/
def primes : List Nat :=
  (List.range 420).filter isPrime

/-- The first bits of the fraction of a root of a prime. -/
def rootFraction (power bits prime : Nat) : Nat :=
  root power (prime * Nat.pow 2 (power * bits)) (bits + 5) 0 % Nat.pow 2 bits

/-! ### The family with words of 32 bits -/

/-- Turns a word to the left. -/
def turnLeft (word : UInt32) (count : UInt32) : UInt32 :=
  (word <<< count) ||| (word >>> (32 - count))

def cubeRoots32 : Array UInt32 :=
  ((primes.take 64).map fun prime => (rootFraction 3 32 prime).toUInt32).toArray

/-- The words of a block with those that come of them. -/
def schedule32 (words : Array UInt32) : Array UInt32 :=
  (List.range 48).foldl
    (fun words i =>
      let word (back : Nat) : UInt32 := words.getD (i + 16 - back) 0
      let x := word 15
      let y := word 2
      let low := turnLeft x 25 ^^^ turnLeft x 14 ^^^ (x >>> 3)
      let high := turnLeft y 15 ^^^ turnLeft y 13 ^^^ (y >>> 10)
      words.push (word 16 + low + word 7 + high))
    words

/-- Takes a block into the state of eight words. -/
def mix256 (state : List UInt32) (block : List UInt8) : List UInt32 :=
  let words := schedule32 ((wordsOf .most 4 block).map Nat.toUInt32).toArray
  let after := (List.range 64).foldl
    (fun state i =>
      match state with
      | [a, b, c, d, e, f, g, h] =>
          let high := turnLeft e 26 ^^^ turnLeft e 21 ^^^ turnLeft e 7
          let choice := (e &&& f) ^^^ ((e ^^^ 0xFFFFFFFF) &&& g)
          let first := h + high + choice + cubeRoots32.getD i 0 + words.getD i 0
          let low := turnLeft a 30 ^^^ turnLeft a 19 ^^^ turnLeft a 10
          let majority := (a &&& b) ^^^ (a &&& c) ^^^ (b &&& c)
          [first + low + majority, a, b, c, d + first, e, f, g]
      | other => other)
    state
  List.zipWith (· + ·) state after

def digest32 (start : List UInt32) (size : Nat) (message : List UInt8) : String :=
  let state := (filled .most 64 8 message).foldl mix256 start
  hexText ((state.flatMap fun word => ByteOrder.most.bytes 4 word.toNat).take size)

def sha256 : List UInt8 → String :=
  digest32 ((primes.take 8).map fun prime => (rootFraction 2 32 prime).toUInt32) 32

def sha224 : List UInt8 → String :=
  digest32
    (((primes.drop 8).take 8).map fun prime => (rootFraction 2 64 prime % 0x100000000).toUInt32)
    28

/-! ### The family with words of 64 bits -/

def turnRight64 (word : UInt64) (count : UInt64) : UInt64 :=
  (word >>> count) ||| (word <<< (64 - count))

def cubeRoots64 : Array UInt64 :=
  ((primes.take 80).map fun prime => (rootFraction 3 64 prime).toUInt64).toArray

def schedule64 (words : Array UInt64) : Array UInt64 :=
  (List.range 64).foldl
    (fun words i =>
      let word (back : Nat) : UInt64 := words.getD (i + 16 - back) 0
      let x := word 15
      let y := word 2
      let low := turnRight64 x 1 ^^^ turnRight64 x 8 ^^^ (x >>> 7)
      let high := turnRight64 y 19 ^^^ turnRight64 y 61 ^^^ (y >>> 6)
      words.push (word 16 + low + word 7 + high))
    words

def mix512 (state : List UInt64) (block : List UInt8) : List UInt64 :=
  let words := schedule64 ((wordsOf .most 8 block).map Nat.toUInt64).toArray
  let after := (List.range 80).foldl
    (fun state i =>
      match state with
      | [a, b, c, d, e, f, g, h] =>
          let high := turnRight64 e 14 ^^^ turnRight64 e 18 ^^^ turnRight64 e 41
          let choice := (e &&& f) ^^^ ((e ^^^ 0xFFFFFFFFFFFFFFFF) &&& g)
          let first := h + high + choice + cubeRoots64.getD i 0 + words.getD i 0
          let low := turnRight64 a 28 ^^^ turnRight64 a 34 ^^^ turnRight64 a 39
          let majority := (a &&& b) ^^^ (a &&& c) ^^^ (b &&& c)
          [first + low + majority, a, b, c, d + first, e, f, g]
      | other => other)
    state
  List.zipWith (· + ·) state after

def digest64 (skipped size : Nat) (message : List UInt8) : String :=
  let start := ((primes.drop skipped).take 8).map fun prime =>
    (rootFraction 2 64 prime).toUInt64
  let state := (filled .most 128 16 message).foldl mix512 start
  hexText ((state.flatMap fun word => ByteOrder.most.bytes 8 word.toNat).take size)

def sha512 : List UInt8 → String :=
  digest64 0 64

def sha384 : List UInt8 → String :=
  digest64 8 48

/-! ### Older digests -/

/-- Takes a block into the state of five words. -/
def mix160 (state : List UInt32) (block : List UInt8) : List UInt32 :=
  let words := (List.range 64).foldl
    (fun words i =>
      let word (back : Nat) : UInt32 := words.getD (i + 16 - back) 0
      words.push (turnLeft (word 3 ^^^ word 8 ^^^ word 14 ^^^ word 16) 1))
    ((wordsOf .most 4 block).map Nat.toUInt32).toArray
  let after := (List.range 80).foldl
    (fun state i =>
      match state with
      | [a, b, c, d, e] =>
          let (mixed, constant) : UInt32 × UInt32 :=
            if i < 20 then ((b &&& c) ||| ((b ^^^ 0xFFFFFFFF) &&& d), 0x5A827999)
            else if i < 40 then (b ^^^ c ^^^ d, 0x6ED9EBA1)
            else if i < 60 then ((b &&& c) ||| (b &&& d) ||| (c &&& d), 0x8F1BBCDC)
            else (b ^^^ c ^^^ d, 0xCA62C1D6)
          [turnLeft a 5 + mixed + e + constant + words.getD i 0, a, turnLeft b 30, c, d]
      | other => other)
    state
  List.zipWith (· + ·) state after

def sha1 (message : List UInt8) : String :=
  let start : List UInt32 := [0x67452301, 0xEFCDAB89, 0x98BADCFE, 0x10325476, 0xC3D2E1F0]
  let state := (filled .most 64 8 message).foldl mix160 start
  hexText (state.flatMap fun word => ByteOrder.most.bytes 4 word.toNat)

/-- The first bits of the sines of whole numbers. -/
def sines : Array UInt32 :=
  ((List.range 64).map fun i =>
    ((Float.sin (Float.ofNat (i + 1))).abs * 4294967296.0).floor.toUInt64.toUInt32).toArray

def turns : List (List UInt32) :=
  [[7, 12, 17, 22], [5, 9, 14, 20], [4, 11, 16, 23], [6, 10, 15, 21]]

/-- Takes a block into the state of four words. -/
def mix128 (state : List UInt32) (block : List UInt8) : List UInt32 :=
  let words := ((wordsOf .least 4 block).map Nat.toUInt32).toArray
  let after := (List.range 64).foldl
    (fun state i =>
      match state with
      | [a, b, c, d] =>
          let (mixed, place) : UInt32 × Nat :=
            match i / 16 with
            | 0 => ((b &&& c) ||| ((b ^^^ 0xFFFFFFFF) &&& d), i)
            | 1 => ((d &&& b) ||| ((d ^^^ 0xFFFFFFFF) &&& c), (5 * i + 1) % 16)
            | 2 => (b ^^^ c ^^^ d, (3 * i + 5) % 16)
            | _ => (c ^^^ (b ||| (d ^^^ 0xFFFFFFFF)), (7 * i) % 16)
          let turn := (turns.getD (i / 16) []).getD (i % 4) 0
          let sum := a + mixed + sines.getD i 0 + words.getD place 0
          [d, b + turnLeft sum turn, b, c]
      | other => other)
    state
  List.zipWith (· + ·) state after

def md5 (message : List UInt8) : String :=
  let start : List UInt32 := [0x67452301, 0xEFCDAB89, 0x98BADCFE, 0x10325476]
  let state := (filled .least 64 8 message).foldl mix128 start
  hexText (state.flatMap fun word => ByteOrder.least.bytes 4 word.toNat)

/-! ### Checksums -/

/-- Takes a byte into a remainder. -/
def remainderStep (sum : UInt32) (byte : UInt8) : UInt32 :=
  (List.range 8).foldl
    (fun sum _ => if sum &&& 0x80000000 ≠ 0 then (sum <<< 1) ^^^ 0x04C11DB7 else sum <<< 1)
    (sum ^^^ (byte.toUInt32 <<< 24))

/-- The bytes of a size, the last one first, without zeros in front. -/
def sizeBytes : Nat → Nat → List UInt8
  | 0, _ => []
  | fuel + 1, size => if size = 0 then [] else (size % 256).toUInt8 :: sizeBytes fuel (size / 256)

/-- The remainder of a message and its size. -/
def remainder (message : List UInt8) : Nat :=
  ((message ++ sizeBytes 16 message.length).foldl remainderStep 0 ^^^ 0xFFFFFFFF).toNat

/-- A sum of bytes that is turned by one bit before each. -/
def turnedSum (message : List UInt8) : Nat :=
  message.foldl
    (fun sum byte => (sum / 2 + (sum % 2) * 0x8000 + byte.toNat) % 0x10000)
    0

/-- A sum of bytes, folded to sixteen bits. -/
def foldedSum (message : List UInt8) : Nat :=
  let sum := (message.foldl (fun sum byte => sum + byte.toNat) 0) % 0x100000000
  let folded := sum % 0x10000 + sum / 0x10000
  folded % 0x10000 + folded / 0x10000

end MailMerge.Shell.Digest

namespace MailMerge.Shell.Utility

open Work

/-- Digests by the names of the utilities that show them, with their names in tags. -/
def digests : List (String × String × (List UInt8 → String)) :=
  [
    ("md5sum", "MD5", Digest.md5), ("sha1sum", "SHA1", Digest.sha1),
    ("sha224sum", "SHA224", Digest.sha224), ("sha256sum", "SHA256", Digest.sha256),
    ("sha384sum", "SHA384", Digest.sha384), ("sha512sum", "SHA512", Digest.sha512)
  ]

/-- A path with its line feeds and backslashes by escapes, and whether it has any. -/
def escapedPath (path : String) : String × Bool :=
  let shown := path.toList.flatMap fun c =>
    match c with
    | '\n' => ['\\', 'n']
    | '\r' => ['\\', 'r']
    | '\\' => ['\\', '\\']
    | c => [c]
  (String.ofList shown, shown.length ≠ path.length)

def unescapedPath : List Char → List Char
  | '\\' :: 'n' :: cs => '\n' :: unescapedPath cs
  | '\\' :: '\\' :: cs => '\\' :: unescapedPath cs
  | c :: cs => c :: unescapedPath cs
  | [] => []

/-- The digest and the path in a line of a list of digests. -/
def digestLine? (size : Nat) (tag : String) (line : List Char) : Option (String × String) :=
  let isEscaped : Bool := line.head? = some '\\'
  let line := if isEscaped then line.tail else line
  let path (cs : List Char) : String :=
    String.ofList (if isEscaped then unescapedPath cs else cs)
  let isHex (cs : List Char) : Bool :=
    cs.length = size && cs.all fun c => c.isDigit || ('a' ≤ c.toLower && c.toLower ≤ 'f')
  let lead := (tag ++ " (").toList
  if lead.isPrefixOf line then
    let back := line.reverse.takeWhile (· ≠ ' ') |>.reverse
    let front := (line.drop lead.length).take (line.length - lead.length - back.length - 4)
    if isHex back then some (String.ofList (back.map Char.toLower), path front) else none
  else
    let digits := line.take size
    match line.drop size with
    | ' ' :: mark :: rest =>
        if isHex digits ∧ (mark = ' ' ∨ mark = '*') ∧ rest ≠ [] then
          some (String.ofList (digits.map Char.toLower), path rest)
        else none
    | _ => none

def plural (count : Nat) (one many : String) : String :=
  if count = 1 then one else many

/-- Compares files with a list of digests. Tells whether all is well. -/
def checkDigests (name tag : String) (digest : List UInt8 → String) (arguments : Arguments)
    (path : String) : Work Bool := do
  let shown := if path = "-" then "'standard input'" else quotedAsNeeded path
  match ← content path with
  | .error e => do
      warn name (plainProblem path e)
      return false
  | .ok text => do
      let size := (digest []).length
      let isQuiet : Bool := arguments.has '\x01'
      let mut proper := 0
      let mut wrong := 0
      let mut missing := 0
      let mut unread := 0
      for line in splitLines text do
        match digestLine? size tag line with
        | none => if line.head? ≠ some '#' then wrong := wrong + 1
        | some (wanted, target) => do
            proper := proper + 1
            let label := (escapedPath target).1
            match ← content target with
            | .error e =>
                if !(arguments.has '\x02' ∧ e = .notFound) then
                  warn name (plainProblem target e)
                  if !isQuiet then sayLine s!"{label}: FAILED open or read"
                  unread := unread + 1
            | .ok bytes =>
                if digest (ofOctets bytes) = wanted then
                  if !isQuiet ∧ !arguments.has '\x03' then sayLine s!"{label}: OK"
                else
                  if !isQuiet then sayLine s!"{label}: FAILED"
                  missing := missing + 1
      if proper = 0 then
        warn name s!"{shown}: no properly formatted checksum lines found"
        return false
      if !isQuiet then
        if wrong ≠ 0 then
          warn name
            ("WARNING: " ++ toString wrong
              ++ plural wrong " line is improperly formatted" " lines are improperly formatted")
        if unread ≠ 0 then
          warn name
            ("WARNING: " ++ toString unread
              ++ plural unread " listed file could not be read" " listed files could not be read")
        if missing ≠ 0 then
          warn name
            ("WARNING: " ++ toString missing
              ++ plural missing " computed checksum did NOT match"
                " computed checksums did NOT match")
      return missing = 0 && unread = 0 && (wrong = 0 || !arguments.has '\x04')

def digestSwitches : Switches :=
  Switches.of "bctwz\x01\x02\x03\x04\x05" ""
    [
      ("binary", 'b'), ("check", 'c'), ("text", 't'), ("warn", 'w'), ("zero", 'z'),
      ("status", '\x01'), ("ignore-missing", '\x02'), ("quiet", '\x03'), ("strict", '\x04'),
      ("tag", '\x05')
    ]

/-- Shows digests of files, or checks them. -/
def showDigests (name tag : String) (digest : List UInt8 → String) (words : List String)
    : Work Nat := do
  let arguments ← arguments digestSwitches 1 name words
  let mut isFine := true
  for path in orInput arguments.operands do
    if arguments.has 'c' then
      if !(← checkDigests name tag digest arguments path) then isFine := false
    else
      match ← content path with
      | .error e => do
          warn name (plainProblem path e)
          isFine := false
      | .ok text => do
          let (label, isEscaped) :=
            if arguments.has 'z' then (path, false) else escapedPath path
          let value := digest (ofOctets text)
          let mark := if arguments.has 'b' then "*" else " "
          let line :=
            if arguments.has '\x05' then s!"{tag} ({label}) = {value}"
            else s!"{value} {mark}{label}"
          let lead := if isEscaped then "\\" else ""
          say ((lead ++ line).toList ++ [if arguments.has 'z' then '\x00' else newline])
  return statusOf isFine

def digestNamed (name : String) (words : List String) : Work Nat :=
  match digests.lookup name with
  | some (tag, digest) => showDigests name tag digest words
  | none => return 1

/-- Shows checksums and sizes of files, or digests if asked for. -/
def showChecksums (words : List String) : Work Nat := do
  let name := "cksum"
  let switches :=
    Switches.of "cz\x05\x06" "al"
      [
        ("algorithm", 'a'), ("length", 'l'), ("check", 'c'), ("zero", 'z'), ("tag", '\x05'),
        ("untagged", '\x06')
      ]
  let arguments ← arguments switches 1 name words
  match arguments.value? 'a' with
  | some kind =>
      match digests.lookup (kind ++ "sum") with
      | some (tag, digest) =>
          let extra := if arguments.has '\x06' then [] else ["--tag"]
          showDigests name tag digest (extra ++ "--" :: arguments.operands)
      | none => fail 1 name (s!"invalid argument {marked kind} for " ++ marked "--algorithm")
  | none => do
      let mut isFine := true
      for path in orInput arguments.operands do
        match ← content path with
        | .error e => do
            warn name (plainProblem path e)
            isFine := false
        | .ok text =>
            let label := if arguments.operands.isEmpty then "" else " " ++ path
            sayLine s!"{Digest.remainder (ofOctets text)} {text.length}{label}"
      return statusOf isFine

/-- Shows sums of the bytes of files, and how many blocks they take. -/
def showSums (words : List String) : Work Nat := do
  let name := "sum"
  let arguments ← arguments (Switches.of "rs" "" [("sysv", 's')]) 1 name words
  let mut isFine := true
  for path in orInput arguments.operands do
    match ← content path with
    | .error e => do
        warn name (plainProblem path e)
        isFine := false
    | .ok text =>
        let label := if arguments.operands.isEmpty then "" else " " ++ path
        let bytes := ofOctets text
        if arguments.has 's' then
          sayLine s!"{Digest.foldedSum bytes} {(text.length + 511) / 512}{label}"
        else
          let sum := (toString (Digest.turnedSum bytes)).toList
          let shown := String.ofList (List.replicate (5 - sum.length) '0' ++ sum)
          let count := String.ofList (padLeft 5 (toString ((text.length + 1023) / 1024)).toList)
          sayLine s!"{shown} {count}{label}"
  return statusOf isFine

end MailMerge.Shell.Utility

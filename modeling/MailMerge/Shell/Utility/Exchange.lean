import MailMerge.Shell.Utility.Lines

/-! Exchanging bytes for others, leaving some out, and joining those that repeat. -/

namespace MailMerge.Shell.Utility

open Work

/-- A part of a list of bytes. -/
inductive Share where
  | single (c : Char)
  | range (first last : Char)
  | named (name : String)
  /-- A byte several times; zero times stands for as often as needed. -/
  | copies (c : Char) (count : Nat)

/-- A byte of a list, and whether a backslash stood in front of it. -/
abbrev Sign := Char × Bool

/-- The letters that a backslash gives another meaning. -/
def escapedLetters : List (Char × Char) :=
  [
    ('a', '\x07'), ('b', '\x08'), ('f', '\x0c'), ('n', '\n'), ('r', '\r'), ('t', '\t'),
    ('v', '\x0b'), ('\\', '\\')
  ]

def isOctal (c : Char) : Bool :=
  '0' ≤ c && c ≤ '7'

def octalValue (digits : List Char) : Nat :=
  digits.foldl (fun value c => value * 8 + (c.toNat - '0'.toNat)) 0

/-- Takes the backslashes off a list. -/
def readSigns : Nat → List Char → List Sign
  | 0, _ => []
  | _ + 1, [] => []
  | fuel + 1, '\\' :: c :: cs =>
      if isOctal c then
        let digits := c :: (cs.take 2).takeWhile isOctal
        let digits := if octalValue digits < 256 then digits else digits.take 2
        (Char.ofNat (octalValue digits), true)
          :: readSigns fuel ((c :: cs).drop digits.length)
      else ((escapedLetters.lookup c).getD c, true) :: readSigns fuel cs
  | fuel + 1, c :: cs => (c, c = '\\') :: readSigns fuel cs

/-- Cuts a name such as `[:digit:]` off a list, behind its opening. -/
def cutClass (mark : Char) : List Sign → Option (List Char × List Sign)
  | [] => none
  | (c, isEscaped) :: cs =>
      if c = mark ∧ !isEscaped ∧ cs.head? = some (']', false) then some ([], cs.tail)
      else (cutClass mark cs).map fun (name, rest) => (c :: name, rest)

/-- The number of copies in brackets, if they end as they should. -/
def copies? (signs : List Sign) : Option (Nat × List Sign) :=
  let digits := (signs.takeWhile fun sign => sign.1.isDigit && !sign.2).map Prod.fst
  let rest := signs.drop digits.length
  if rest.head? = some (']', false) then
    let value :=
      if digits.head? = some '0' then octalValue digits
      else digits.foldl (fun value c => value * 10 + (c.toNat - '0'.toNat)) 0
    some (value, rest.tail)
  else none

/-- A byte as a message shows it. -/
def shownByte (c : Char) : String :=
  if ' ' ≤ c ∧ c ≤ '~' then String.singleton c
  else
    let digits := Nat.toDigits 8 c.toNat
    "\\" ++ String.ofList (List.replicate (3 - digits.length) '0' ++ digits)

def readShares : Nat → List Sign → Except String (List Share)
  | 0, _ => .ok []
  | _ + 1, [] => .ok []
  | fuel + 1, signs =>
      match signs with
      | ('[', false) :: (':', false) :: rest =>
          match cutClass ':' rest with
          | some (name, rest) =>
              let name := String.ofList name
              (readShares fuel rest).map (.named name :: ·)
          | none => plain fuel signs
      | ('[', false) :: ('=', false) :: rest =>
          match cutClass '=' rest with
          | some ([c], rest) => (readShares fuel rest).map (.single c :: ·)
          | _ => plain fuel signs
      | ('[', false) :: (c, _) :: ('*', false) :: rest =>
          match copies? rest with
          | some (count, rest) => (readShares fuel rest).map (.copies c count :: ·)
          | none => plain fuel signs
      | _ => plain fuel signs
where
  /-- A byte by itself, or a range. -/
  plain (fuel : Nat) (signs : List Sign) : Except String (List Share) :=
    match signs with
    | (first, _) :: ('-', false) :: (last, _) :: rest =>
        if last < first then
          .error
            (s!"range-endpoints of '{shownByte first}-{shownByte last}' "
              ++ "are in reverse collating sequence order")
        else (readShares fuel rest).map (.range first last :: ·)
    | (c, _) :: rest => (readShares fuel rest).map (.single c :: ·)
    | [] => .ok []

/-- The bytes that satisfy a test, in their order. -/
def bytesWith (test : Char → Bool) : List Char :=
  ((List.range 256).map Char.ofNat).filter test

/-- Classes of bytes by name. -/
def byteClass? (name : String) : Option (Char → Bool) :=
  match name with
  | "alpha" => some Char.isAlpha
  | "digit" => some Char.isDigit
  | "alnum" => some Char.isAlphanum
  | "upper" => some Char.isUpper
  | "lower" => some Char.isLower
  | "space" => some isSpace
  | "blank" => some fun c => c = ' ' || c = '\t'
  | "punct" => some fun c => '!' ≤ c && c ≤ '~' && !c.isAlphanum
  | "print" => some fun c => ' ' ≤ c && c ≤ '~'
  | "graph" => some fun c => '!' ≤ c && c ≤ '~'
  | "cntrl" => some fun c => c < ' ' || c = '\x7f'
  | "xdigit" => some fun c => c.isDigit || ('a' ≤ c && c ≤ 'f') || ('A' ≤ c && c ≤ 'F')
  | _ => none

/-- The bytes of a part; a byte that is wanted as often as needed comes that often. -/
def Share.bytes (needed : Nat) : Share → List Char
  | single c => [c]
  | range first last =>
      (List.range (last.toNat + 1 - first.toNat)).map fun i => Char.ofNat (first.toNat + i)
  | named name => bytesWith ((byteClass? name).getD fun _ => false)
  | copies c 0 => List.replicate needed c
  | copies c count => List.replicate count c

def Share.isNamed (name : String) : Share → Bool
  | named found => found = name
  | _ => false

def Share.isClass : Share → Bool
  | named _ => true
  | _ => false

def readList (text : String) : Work (List Share) := do
  let cs := text.toList
  match readShares (cs.length + 1) (readSigns (cs.length + 1) cs) with
  | .error problem => fail 1 "tr" problem
  | .ok shares => do
      for share in shares do
        match share with
        | .named name =>
            if (byteClass? name).isNone then
              fail 1 "tr" s!"invalid character class {marked name}"
        | _ => pure ()
      let trailing := (cs.reverse.takeWhile (· = '\\')).length
      if trailing % 2 = 1 then
        warn "tr" "warning: an unescaped backslash at end of string is not portable"
      return shares

/-- The places of the classes of upper and lower case in a list. -/
def caseClasses (shares : List Share) : List Nat :=
  (shares.zipIdx.filter fun (share, _) =>
    share.isNamed "upper" || share.isNamed "lower").map fun (_, i) =>
      ((shares.take i).flatMap (Share.bytes 0)).length

/-- The second list for a translation, as long as the first one. -/
def targetBytes (first second : List Share) (isComplement truncates : Bool)
    (source : List Char) : Work (List Char) := do
  if !isComplement ∧ second.any (fun share => share.isClass
      && !share.isNamed "upper" && !share.isNamed "lower") then
    fail 1 "tr"
      ("when translating, the only character classes that may appear in\n"
        ++ "string2 are 'upper' and 'lower'")
  let fixed := (second.flatMap (Share.bytes 0)).length
  let target := second.flatMap (Share.bytes (source.length - fixed))
  if isComplement ∧ second.any Share.isClass ∧ target.length < source.length then
    fail 1 "tr"
      ("when translating with string1 longer than string2,\n"
        ++ "the latter string must not end with a character class")
  if !isComplement then
    let places := caseClasses first
    if (caseClasses second).any (!places.contains ·) then
      fail 1 "tr" "misaligned [:upper:] and/or [:lower:] construct"
  if target.length < source.length ∧ !truncates then
    match target.getLast? with
    | none => fail 1 "tr" "when not truncating set1, string2 must be non-empty"
    | some last => return target ++ List.replicate (source.length - target.length) last
  return target

/-- Leaves out bytes of a set that repeat the byte in front of them. -/
def squeeze (isMember : Char → Bool) (text : List Char) : List Char :=
  (text.foldl
    (fun kept c => if kept.head? = some c ∧ isMember c then kept else c :: kept)
    []).reverse

/-- Looks bytes up in a table of what stands for each. -/
def tableOf (source target : List Char) : Array Char :=
  (source.zip target).foldl (fun table (c, d) => table.setIfInBounds c.toNat d)
    ((List.range 256).map Char.ofNat).toArray

def exchange (words : List String) : Work Nat := do
  let name := "tr"
  let switches :=
    Switches.of "cCdst" ""
      [
        ("complement", 'c'), ("delete", 'd'), ("squeeze-repeats", 's'), ("truncate-set1", 't')
      ]
  let arguments ← arguments { switches with permutes := false } 1 name words
  let deletes := arguments.has 'd'
  let squeezes := arguments.has 's'
  let isComplement := arguments.has 'c' || arguments.has 'C'
  let first ←
    match arguments.operands with
    | [] => misuse 1 name "missing operand"
    | [first] => do
        if deletes && squeezes then
          misuse 1 name
            (s!"missing operand after {marked first}\n"
              ++ "Two strings must be given when both deleting and squeezing repeats.")
        if !deletes && !squeezes then
          misuse 1 name
            (s!"missing operand after {marked first}\n"
              ++ "Two strings must be given when translating.")
        pure first
    | [first, second] => do
        if deletes && !squeezes then
          misuse 1 name
            (s!"extra operand {marked second}\n"
              ++ "Only one string may be given when deleting without squeezing repeats.")
        pure first
    | _ :: _ :: extra :: _ => misuse 1 name s!"extra operand {marked extra}"
  let firstShares ← readList first
  let members := firstShares.flatMap (Share.bytes 0)
  let source := if isComplement then bytesWith (!members.contains ·) else members
  let memberTable :=
    (source.foldl (fun table c => table.setIfInBounds c.toNat true) (Array.replicate 256 false))
  let isMember (c : Char) : Bool := memberTable.getD c.toNat false
  match arguments.operands.tail.head? with
  | none => do
      let text ← takeInput
      say (if deletes then text.filter (!isMember ·) else squeeze isMember text)
      return 0
  | some second => do
      let secondShares ← readList second
      if deletes then
        let kept := (← takeInput).filter (!isMember ·)
        let joined := secondShares.flatMap (Share.bytes 0)
        say (squeeze joined.contains kept)
        return 0
      else
        let target ← targetBytes firstShares secondShares isComplement (arguments.has 't') source
        let table := tableOf source target
        let changed := (← takeInput).map fun c => table.getD c.toNat c
        say (if squeezes then squeeze target.contains changed else changed)
        return 0

end MailMerge.Shell.Utility

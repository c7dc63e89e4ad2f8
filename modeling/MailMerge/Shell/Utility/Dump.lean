import MailMerge.Decimal.Layout
import MailMerge.Shell.Utility.Lines

/-! Bytes as numbers and marks, in rows with the place of each row in front. -/

namespace MailMerge.Shell.Utility

open Work

/-- How a row of bytes is shown. -/
inductive DumpKind where
  /-- The names of the characters of ASCII. -/
  | names
  /-- Printable characters as they are, and others by escapes. -/
  | chars
  | signed
  | unsigned
  | octal
  | hex
  | fraction
  deriving DecidableEq, Repr

structure DumpStyle where
  kind : DumpKind
  /-- How many bytes make up one item. -/
  size : Nat
  /-- Whether the printable characters stand behind the row. -/
  hasTrailer : Bool
  deriving DecidableEq, Repr

/-- How many columns an item takes. -/
def DumpStyle.width (style : DumpStyle) : Nat :=
  match style.kind, style.size with
  | .names, _ | .chars, _ => 3
  | .octal, size => (size * 8 + 2) / 3
  | .hex, size => size * 2
  | .signed, 1 => 4
  | .signed, 2 => 6
  | .signed, 4 => 11
  | .signed, _ => 20
  | .unsigned, 1 => 3
  | .unsigned, 2 => 5
  | .unsigned, 4 => 10
  | .unsigned, _ => 20
  | .fraction, 4 => 15
  | .fraction, _ => 24

def asciiNames : List String :=
  [
    "nul", "soh", "stx", "etx", "eot", "enq", "ack", "bel", "bs", "ht", "nl", "vt", "ff",
    "cr", "so", "si", "dle", "dc1", "dc2", "dc3", "dc4", "nak", "syn", "etb", "can", "em",
    "sub", "esc", "fs", "gs", "rs", "us", "sp"
  ]

/-- The fraction that bits stand for, with as few digits as read back. -/
def fractionText (bits : Nat) : String :=
  let size := bits % 0x8000000000000000
  let sign := if bits / 0x8000000000000000 = 1 then "-" else ""
  if size = 0 then sign ++ "0"
  else if Decimal.infinityBits < size then sign ++ "nan"
  else if size = Decimal.infinityBits then sign ++ "inf"
  else
    let (fraction, scale) := Decimal.unpackBits size
    let quotient := Decimal.Quotient.ofScaled fraction scale
    let readsBack (digits : Nat) : Bool :=
      let (units, power) := quotient.scientific (digits - 1)
      Decimal.magnitudeBits units (power - (digits - 1 : Nat)) = size
    let digits := ([15, 16].find? readsBack).getD 17
    sign ++ String.ofList (quotient.general 'e' digits false)

/-- An item of some bytes, the last of which counts most. -/
def DumpStyle.item (style : DumpStyle) (bytes : List Char) : String :=
  let value := bytes.foldr (fun c value => value * 256 + c.toNat) 0
  let filled (size : Nat) (digits : List Char) : String :=
    String.ofList (List.replicate (size - digits.length) '0' ++ digits)
  match style.kind with
  | .names =>
      let code := value % 128
      if code = 127 then "del"
      else if code ≤ 32 then asciiNames.getD code ""
      else String.ofList [Char.ofNat code]
  | .chars =>
      let c := Char.ofNat value
      if value = 0 then "\\0"
      else
        match shownEscapes.lookup c with
        | some letter => String.ofList ['\\', letter]
        | none => if isPrintable c then String.ofList [c] else filled 3 (Nat.toDigits 8 value)
  | .octal => filled style.width (Nat.toDigits 8 value)
  | .hex => filled style.width (Nat.toDigits 16 value)
  | .unsigned => toString value
  | .signed =>
      let unit := Nat.pow 256 style.size
      toString (if unit ≤ 2 * value then (value : Int) - unit else value)
  | .fraction => fractionText value

/-- The letters that stand for styles of their own. -/
def dumpLetters : List (Char × DumpKind × Nat) :=
  [
    ('a', .names, 1), ('b', .octal, 1), ('c', .chars, 1), ('D', .unsigned, 4),
    ('d', .unsigned, 2), ('e', .fraction, 8), ('F', .fraction, 8), ('h', .hex, 2),
    ('x', .hex, 2), ('H', .hex, 4), ('X', .hex, 4), ('i', .signed, 4), ('I', .signed, 8),
    ('l', .signed, 8), ('L', .signed, 8), ('O', .octal, 4), ('B', .octal, 2), ('o', .octal, 2),
    ('s', .signed, 2)
  ]

def kindOf? (letter : Char) : Option DumpKind :=
  match letter with
  | 'a' => some .names
  | 'c' => some .chars
  | 'd' => some .signed
  | 'u' => some .unsigned
  | 'o' => some .octal
  | 'x' => some .hex
  | 'f' => some .fraction
  | _ => none

/-- Letters that stand for sizes. -/
def sizeLetters (kind : DumpKind) : List (Char × Nat) :=
  if kind = .fraction then [('F', 4), ('D', 8), ('L', 8)]
  else [('C', 1), ('S', 2), ('I', 4), ('L', 8)]

/-- A style with the size that stands behind its letter, if one does. -/
def sizedStyle (text : String) (kind : DumpKind) (cs : List Char)
    : Except String (DumpStyle × List Char) :=
  let plain (size : Nat) : DumpStyle := { kind, size, hasTrailer := false }
  let isFraction : Bool := kind = .fraction
  let digits := cs.takeWhile Char.isDigit
  if kind = .names ∨ kind = .chars then .ok (plain 1, cs)
  else if digits ≠ [] then
    let size := Decimal.ofDigits digits
    let sizes := if isFraction then [4, 8] else [1, 2, 4, 8]
    if sizes.contains size then .ok (plain size, cs.drop digits.length)
    else
      let what := if isFraction then "floating point" else "integral"
      .error
        (s!"invalid type string {marked text};\nthis system doesn't provide a {size}-byte "
          ++ what ++ " type")
  else
    match cs.head?.bind fun letter => (sizeLetters kind).lookup letter with
    | some size => .ok (plain size, cs.tail)
    | none => .ok (plain (if isFraction then 8 else 4), cs)

/-- Reads the styles of a text; the number bounds how many there are. -/
def readStyles (text : String) : Nat → List Char → Except String (List DumpStyle)
  | 0, _ | _, [] => .ok []
  | fuel + 1, c :: cs => do
      match kindOf? c with
      | none => throw s!"invalid character {marked c.toString} in type string {marked text}"
      | some kind => do
          let (style, rest) ← sizedStyle text kind cs
          let zeds := rest.takeWhile (· = 'z')
          let more ← readStyles text fuel (rest.drop zeds.length)
          return { style with hasTrailer := decide (zeds ≠ []) } :: more

/-- Groups of so many bytes; the number bounds how many there are. -/
def chunksOf (size : Nat) : Nat → List Char → List (List Char)
  | 0, _ | _, [] => []
  | fuel + 1, cs => cs.take size :: chunksOf size fuel (cs.drop size)

/-- How rows are laid out. -/
structure DumpLayout where
  styles : List DumpStyle
  rowSize : Nat
  radix : Char
  /-- Whether rows that repeat the one in front are left out. -/
  isBrief : Bool
  isBigEndian : Bool

/-- How many columns the widest style takes in a row. -/
def DumpLayout.rowWidth (layout : DumpLayout) : Nat :=
  (layout.styles.map fun style => (style.width + 1) * (layout.rowSize / style.size)).foldl max 0

/-- A place, in the base that is asked for. -/
def DumpLayout.place (layout : DumpLayout) (place : Nat) : List Char :=
  let filled (size : Nat) (digits : List Char) : List Char :=
    List.replicate (size - digits.length) '0' ++ digits
  match layout.radix with
  | 'd' => filled 7 (Nat.toDigits 10 place)
  | 'x' => filled 6 (Nat.toDigits 16 place)
  | 'n' => []
  | _ => filled 7 (Nat.toDigits 8 place)

/-- A row of bytes in one style. Blanks are spread evenly over the items. -/
def DumpLayout.row (layout : DumpLayout) (style : DumpStyle) (bytes : List Char) : List Char :=
  let fields := layout.rowSize / style.size
  let pad := layout.rowWidth - style.width * fields
  let padBefore (left : Nat) : Nat := pad * left / fields
  let items := chunksOf style.size (bytes.length + 1) bytes
  let shown := items.zipIdx.flatMap fun (item, i) =>
    let filled := item ++ List.replicate (style.size - item.length) '\x00'
    let ordered := if layout.isBigEndian then filled.reverse else filled
    let width := padBefore (fields - i) - padBefore (fields - i - 1) + style.width
    padLeft width (style.item ordered).toList
  let trailer :=
    if style.hasTrailer then
      let missing := fields - items.length
      List.replicate (missing * style.width + padBefore missing) ' ' ++ "  >".toList
        ++ bytes.map (fun c => if isPrintable c then c else '.') ++ ['<']
    else []
  shown ++ trailer ++ [newline]

/-- All rows from a place on. -/
def DumpLayout.rows (layout : DumpLayout) (start : Nat) (text : List Char) : List Char :=
  let chunks := chunksOf layout.rowSize (text.length + 1) text
  let (shown, _, _) :=
    chunks.zipIdx.foldl
      (fun (shown, last, isSkipping) (chunk, i) =>
        if layout.isBrief ∧ some chunk = last ∧ chunk.length = layout.rowSize then
          (if isSkipping then shown else "*\n".toList :: shown, last, true)
        else
          let place := layout.place (start + i * layout.rowSize)
          let lines := layout.styles.zipIdx.flatMap fun (style, j) =>
            (if j = 0 then place else List.replicate place.length ' ') ++ layout.row style chunk
          (lines :: shown, some chunk, false))
      (([] : List (List Char)), (none : Option (List Char)), false)
  let finish :=
    if layout.radix = 'n' then [] else layout.place (start + text.length) ++ [newline]
  shown.reverse.flatten ++ finish

/-- The texts of printable characters that a zero byte ends, with their places. -/
def stringsIn (least : Nat) (layout : DumpLayout) (start : Nat) (text : List Char) : List Char :=
  let pieces := text.splitOn '\x00'
  let ended := pieces.dropLast
  let (shown, _) :=
    ended.foldl
      (fun (shown, place) piece =>
        let tail := (piece.reverse.takeWhile isPrintable).reverse
        let line :=
          if least ≤ tail.length then
            let here := layout.place (place + piece.length - tail.length)
            here ++ (if layout.radix = 'n' then [] else [' ']) ++ tail ++ [newline]
          else []
        (shown ++ line, place + piece.length + 1))
      (([] : List Char), start)
  shown

/-- The styles that the switches ask for, in their order. -/
def stylesOf (arguments : Arguments) : Except String (List DumpStyle) := do
  let found ← arguments.found.mapM fun (letter, value) =>
    if letter = 't' then readStyles value (value.length + 1) value.toList
    else
      .ok <|
        match dumpLetters.lookup letter with
        | some (kind, size) => [{ kind, size, hasTrailer := false }]
        | none => []
  let styles := found.flatten
  return if styles.isEmpty then [{ kind := .octal, size := 2, hasTrailer := false }] else styles

def dumpBytes (words : List String) : Work Nat := do
  let name := "od"
  let switches : Switches :=
    {
      letters :=
        ("abBcDdeFfhHiIlLoOsvxX".toList.map (·, .alone))
          ++ ("AjNt\x01".toList.map (·, .value)) ++ [('w', .optional), ('S', .optional)]
      names :=
        [
          ("address-radix", 'A'), ("skip-bytes", 'j'), ("read-bytes", 'N'), ("format", 't'),
          ("output-duplicates", 'v'), ("width", 'w'), ("strings", 'S'), ("endian", '\x01')
        ]
      permutes := true
    }
  let arguments ← arguments switches 1 name words
  let number (letter : Char) : Work (Option Nat) := do
    match arguments.value? letter with
    | none => return none
    | some text =>
        match countOf? text with
        | some count => return some count
        | none =>
            fail 1 name <| "invalid -" ++ letter.toString ++ " argument " ++ marked text
  let radix := (arguments.value? 'A').getD "o"
  if !(["d", "o", "x", "n"].contains radix) then
    fail 1 name
      s!"invalid output address radix {marked radix}; it must be one character from [doxn]"
  let skipped := (← number 'j').getD 0
  let most ← number 'N'
  let styles ←
    match stylesOf arguments with
    | .ok styles => pure styles
    | .error problem => fail 1 name problem
  let unit := (styles.map DumpStyle.size).foldl max 1
  let rowSize ←
    match arguments.value? 'w' with
    | none => pure 16
    | some "" => pure 32
    | some text =>
        match countOf? text with
        | some size =>
            if 0 < size ∧ size % unit = 0 then pure size
            else do
              warn name s!"warning: invalid width {size}; using {unit} instead"
              pure unit
        | none => fail 1 name <| "invalid -w argument " ++ marked text
  let (text, isFine) ← readAll name plainProblem arguments.operands
  if most.isSome then modify fun station => { station with isEndless := false }
  if !isFine ∧ text.isEmpty then return 1
  if text.length < skipped then fail 1 name "cannot skip past end of combined input"
  let rest := text.drop skipped
  let rest := most.elim rest rest.take
  let layout : DumpLayout :=
    {
      styles, rowSize
      radix := radix.toList.headD 'o'
      isBrief := !arguments.has 'v'
      isBigEndian := arguments.value? '\x01' = some "big"
    }
  match arguments.value? 'S' with
  | some text => say (stringsIn ((natOf? text).getD 3) layout skipped rest)
  | none => say (layout.rows skipped rest)
  return statusOf isFine

end MailMerge.Shell.Utility

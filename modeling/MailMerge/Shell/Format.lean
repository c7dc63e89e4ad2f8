import MailMerge.Decimal.Magnitude
import MailMerge.Shell.Arithmetic
import MailMerge.Shell.Octets

/-! Texts with escapes, and formats that are filled in with words. -/

namespace MailMerge.Shell

/-! ### Escapes -/

/-- The letters that stand for a byte behind a backslash. -/
def letterEscapes : List (Char × Char) :=
  [
    ('n', '\n'), ('t', '\t'), ('r', '\r'), ('\\', '\\'), ('a', '\x07'), ('b', '\x08'),
    ('e', '\x1b'), ('f', '\x0c'), ('v', '\x0b')
  ]

def octalDigits (most : Nat) (cs : List Char) : List Char :=
  (cs.take most).takeWhile fun c => '0' ≤ c && c ≤ '7'

def octalByte (digits : List Char) : Char :=
  Char.ofNat (digits.foldl (fun value c => value * 8 + (c.toNat - '0'.toNat)) 0 % 256)

/-- The bytes of a text with escapes, the last one first, and whether an escape has ended
the text. In a word, as opposed to a format, a zero may lead an octal escape, and `\c` ends
the text.
-/
def unescapeOnto (isWord : Bool) : Nat → List Char → List Char → List Char × Bool
  | 0, done, _ => (done, false)
  | _ + 1, done, [] => (done, false)
  | fuel + 1, done, '\\' :: c :: cs =>
      match letterEscapes.lookup c with
      | some byte => unescapeOnto isWord fuel (byte :: done) cs
      | none =>
          if c = 'c' ∧ isWord then (done, true)
          else if '0' ≤ c ∧ c ≤ '7' then
            let digits :=
              if isWord ∧ c = '0' then octalDigits 3 cs else octalDigits 3 (c :: cs)
            let rest := if isWord ∧ c = '0' then cs else c :: cs
            unescapeOnto isWord fuel (octalByte digits :: done) (rest.drop digits.length)
          else unescapeOnto isWord fuel (c :: '\\' :: done) cs
  | fuel + 1, done, c :: cs => unescapeOnto isWord fuel (c :: done) cs

def unescape (isWord : Bool) (cs : List Char) : List Char × Bool :=
  let (done, hasEnded) := unescapeOnto isWord (cs.length + 1) [] cs
  (done.reverse, hasEnded)

/-- Words with blanks between them, with their escapes resolved. -/
def echo (words : List String) : List Char :=
  let isOpen : Bool := words.head? = some "-n"
  let words := if isOpen then words.tail else words
  let (text, hasEnded) := unescape true (" ".intercalate words).toList
  text ++ (if isOpen || hasEnded then [] else [newline])

/-! ### Formats -/

/-- What a format has come to: the bytes shown, the last one first, the words left, and
what was wrong.
-/
structure Filling where
  shown : List Char
  words : List String
  warnings : List String
  /-- What is wrong with the format itself. -/
  problem : Option String
  hasEnded : Bool

/-- How a value is laid out. -/
structure Field where
  flags : List Char
  width : Nat
  precision : Option Nat

def Field.has (field : Field) (flag : Char) : Bool :=
  field.flags.contains flag

def Field.pad (field : Field) (text : List Char) : List Char :=
  if field.has '-' then padRight field.width text else padLeft field.width text

/-- A number with its sign, and zeros behind it where they fill the width. -/
def Field.number (field : Field) (sign digits : List Char) (usesZeros : Bool) : List Char :=
  if field.has '0' ∧ !field.has '-' ∧ usesZeros then
    sign ++ List.replicate (field.width - sign.length - digits.length) '0' ++ digits
  else field.pad (sign ++ digits)

/-- The sign of a number that is not negative. -/
def Field.plus (field : Field) : List Char :=
  if field.has '+' then ['+'] else if field.has ' ' then [' '] else []

def Field.whole (field : Field) (value : Int) : List Char :=
  let digits := (toString value.natAbs).toList
  let digits := List.replicate (field.precision.getD 1 - digits.length) '0' ++ digits
  let digits := if field.precision = some 0 ∧ value = 0 then [] else digits
  field.number (if value < 0 then ['-'] else field.plus) digits field.precision.isNone

/-- A number without a sign, in a base that a letter stands for. -/
def Field.unsigned (field : Field) (letter : Char) (value : Nat) : List Char :=
  let digits :=
    match letter with
    | 'o' => Nat.toDigits 8 value
    | 'x' => Nat.toDigits 16 value
    | 'X' => (Nat.toDigits 16 value).map Char.toUpper
    | _ => Nat.toDigits 10 value
  let digits := List.replicate (field.precision.getD 1 - digits.length) '0' ++ digits
  let lead :=
    if !field.has '#' ∨ value = 0 then []
    else
      match letter with
      | 'o' => ['0']
      | 'x' => ['0', 'x']
      | 'X' => ['0', 'X']
      | _ => []
  field.number lead digits field.precision.isNone

/-- A number with a fraction, in the layout that a letter stands for. -/
def Field.fractional (field : Field) (letter : Char) (isNegative : Bool)
    (bits : Nat) : List Char :=
  let precision := field.precision.getD 6
  let small := letter.toLower
  let turn (text : List Char) : List Char :=
    if letter.isUpper then text.map Char.toUpper else text
  let sign := if isNegative then ['-'] else field.plus
  match Decimal.Magnitude.ofBits bits with
  | .undefined => field.pad (sign ++ turn "nan".toList)
  | .infinite => field.pad (sign ++ turn "inf".toList)
  | .finite q =>
      let point (text : List Char) : List Char :=
        if field.has '#' ∧ precision = 0 then text ++ ['.'] else text
      if small = 'a' then
        let text := turn (Decimal.hexText bits field.precision (field.has '#'))
        field.number (sign ++ text.take 2) (text.drop 2) true
      else
        let digits :=
          if small = 'f' then point (q.fixed precision)
          else if small = 'e' then q.exponential letter precision
          else q.general (if letter = 'G' then 'E' else 'e') precision (field.has '#')
        field.number sign digits true

/-- The number of a word, and what is wrong with it. -/
def wholeOf (word : String) (isSigned : Bool) : Int × Option String :=
  match word.toList with
  | '\x27' :: cs | '\x22' :: cs => ((cs.head?.getD '\x00').toNat, none)
  | cs =>
      let cs := cs.dropWhile isSpace
      let (isNegative, body) :=
        match cs with
        | '-' :: cs => (true, cs)
        | '+' :: cs => (false, cs)
        | cs => (false, cs)
      let (value, rest) :=
        if body.head?.any Char.isDigit then Arithmetic.takeNumber body else (0, word.toList)
      let value : Int := if isNegative then -value else value
      let least : Int := if isSigned then -0x8000000000000000 else -0xFFFFFFFFFFFFFFFF
      let most : Int := if isSigned then 0x7FFFFFFFFFFFFFFF else 0xFFFFFFFFFFFFFFFF
      let clamped :=
        if isSigned then max least (min most value)
        else if least ≤ value ∧ value ≤ most then value % 0x10000000000000000
        else most
      let problem :=
        if !body.head?.any Char.isDigit then
          if word = "" then none else some s!"{word}: expected numeric value"
        else if rest ≠ [] then some s!"{word}: not completely converted"
        else if value < least ∨ most < value then
          some s!"{word}: Numerical result out of range"
        else none
      (clamped, problem)

/-- The number with a fraction that a word is, by its sign and its bits, and what is wrong
with it.
-/
def fractionOf (word : String) : Bool × Nat × Option String :=
  match word.toList with
  | '\x27' :: cs | '\x22' :: cs =>
      (false, Decimal.nearestBits (cs.head?.getD '\x00').toNat 1, none)
  | cs =>
      match Decimal.Head.read? (cs.dropWhile isSpace) with
      | none =>
          (false, 0, if word = "" then none else some s!"{word}: expected numeric value")
      | some head =>
          let isWord : Bool := cs.any fun c => c.toLower = 'i' || c.toLower = 'n'
          (head.isNegative, head.bits,
            if head.rest ≠ [] then some s!"{word}: not completely converted"
            else if Decimal.infinityBits ≤ head.bits ∧ !isWord then
              some s!"{word}: Numerical result out of range"
            else none)

/-- Takes a word, if one is left. -/
def Filling.next (filling : Filling) : Option String × Filling :=
  (filling.words.head?, { filling with words := filling.words.tail })

def Filling.show (filling : Filling) (text : List Char) : Filling :=
  { filling with shown := text.reverse ++ filling.shown }

def Filling.warn (filling : Filling) : Option String → Filling
  | some warning => { filling with warnings := filling.warnings ++ [warning] }
  | none => filling

/-- Shows a word in the manner that a letter stands for. -/
def Filling.fill (filling : Filling) (field : Field) (letter : Char) : Filling :=
  let (word?, filling) := filling.next
  let word := word?.getD ""
  let cut (text : List Char) : List Char :=
    match field.precision with
    | some most => text.take most
    | none => text
  if letter = 's' then filling.show (field.pad (cut word.toList))
  else if letter = 'c' then
    filling.show (field.pad [word.toList.head?.getD '\x00'])
  else if letter = 'b' then
    let (text, hasEnded) := unescape true word.toList
    { filling.show (field.pad (cut text)) with hasEnded }
  else if letter = 'd' ∨ letter = 'i' then
    let (value, problem) := wholeOf word true
    (filling.show (field.whole value)).warn problem
  else if "ouxX".toList.contains letter then
    let (value, problem) := wholeOf word false
    (filling.show (field.unsigned letter value.toNat)).warn problem
  else
    let (isNegative, bits, problem) := fractionOf word
    (filling.show (field.fractional letter isNegative bits)).warn problem

/-- Takes a number off a format; an asterisk takes it from the words. -/
def takeSize (filling : Filling) (cs : List Char) : Option Int × List Char × Filling :=
  match cs with
  | '*' :: cs =>
      let (word, filling) := filling.next
      let (value, problem) := wholeOf (word.getD "") true
      (some value, cs, filling.warn problem)
  | cs =>
      let digits := cs.takeWhile Char.isDigit
      (if digits.isEmpty then none else some (Decimal.ofDigits digits),
        cs.drop digits.length, filling)

/-- Goes through a format once. -/
def fillOnce : Nat → List Char → Filling → Filling
  | 0, _, filling => filling
  | _ + 1, [], filling => filling
  | fuel + 1, '%' :: '%' :: cs, filling => fillOnce fuel cs (filling.show ['%'])
  | fuel + 1, '%' :: cs, filling =>
      let flags := cs.takeWhile "#-+ 0".toList.contains
      let (width, rest, filling) := takeSize filling (cs.drop flags.length)
      let (precision, rest, filling) :=
        match rest with
        | '.' :: rest =>
            let (precision, rest, filling) := takeSize filling rest
            (some (precision.getD 0), rest, filling)
        | rest => (none, rest, filling)
      let size := width.getD 0
      let field : Field :=
        {
          flags := if size < 0 then '-' :: flags else flags
          width := size.natAbs
          precision := (precision.filter (0 ≤ ·)).map Int.toNat
        }
      match rest with
      | [] => { filling with problem := some "missing format character" }
      | letter :: behind =>
          if "bcsdiouxXeEfFgGaA".toList.contains letter then
            let filling := filling.fill field letter
            if filling.hasEnded then filling else fillOnce fuel behind filling
          else
            let shown := '%' :: cs.take (cs.length - behind.length)
            { filling with problem := some (String.ofList shown ++ ": invalid directive") }
  | fuel + 1, cs, filling =>
      let text := cs.takeWhile (· ≠ '%')
      fillOnce fuel (cs.drop text.length) (filling.show (unescape false text).1)

/-- Goes through a format as often as there are words for it. -/
def fillAll (format : List Char) : Nat → Filling → Filling
  | 0, filling => filling
  | fuel + 1, filling =>
      let before := filling.words.length
      let filling := fillOnce (format.length + 1) format filling
      if filling.problem.isSome ∨ filling.hasEnded ∨ filling.words = []
          ∨ filling.words.length = before then filling
      else fillAll format fuel filling

/-- What a format and its words come to. -/
def fillFormat (format : String) (words : List String) : Filling :=
  fillAll format.toList (words.length + 1)
    { shown := [], words, warnings := [], problem := none, hasEnded := false }

end MailMerge.Shell

import MailMerge.Decimal.Binary64
import MailMerge.Shell.Awk.Syntax
import MailMerge.Shell.Format

/-! Tokens of programs. A slash starts a pattern where no division can stand. -/

namespace MailMerge.Shell.Awk

inductive Token where
  | number (value : Float) (shown : String)
  | text (value : List Char) (shown : String)
  | pattern (text : List Char)
  | name (name : String)
  /-- A name with a parenthesis right behind it. -/
  | called (name : String)
  | word (name : String)
  | sign (text : String)
  | lineEnd
  | bad (message : String) (isBare : Bool)
  | finish

/-- A token and the line that it stands in. -/
structure Placed where
  token : Token
  line : Nat

/-- Words that structure programs. -/
def keywords : List String :=
  [
    "BEGIN", "END", "function", "func", "if", "else", "while", "for", "do", "break",
    "continue", "next", "nextfile", "exit", "return", "delete", "in", "getline", "print",
    "printf"
  ]

/-- Functions with a meaning of their own, and how many arguments they take. -/
def builtins : List (String × Nat × Nat) :=
  [
    ("length", 0, 1), ("substr", 2, 3), ("index", 2, 2), ("split", 2, 3), ("gsub", 2, 3),
    ("sub", 2, 3), ("match", 2, 2), ("sprintf", 1, 1000), ("tolower", 1, 1),
    ("toupper", 1, 1), ("int", 1, 1), ("sqrt", 1, 1), ("exp", 1, 1), ("log", 1, 1),
    ("sin", 1, 1), ("cos", 1, 1), ("atan2", 2, 2), ("rand", 0, 0), ("srand", 0, 1),
    ("system", 1, 1), ("close", 1, 1), ("fflush", 0, 1)
  ]

/-- Signs, longer ones before their beginnings. -/
def signs : List String :=
  [
    "+=", "-=", "*=", "/=", "%=", "^=", "==", "<=", ">=", "!=", ">>", "++", "--",
    "&&", "||", "!~", "\x7b", "\x7d", "(", ")", "[", "]", ";", ",", "+", "-", "*", "/", "%",
    "^", "!", "<", ">", "|", "?", ":", "~", "$", "="
  ]

/-- Whether a sign behind a token can be a division. -/
def Token.endsValue : Token → Bool
  | .number _ _ | .text _ _ | .pattern _ | .name _ => true
  | .word found => found = "length" || found = "getline"
  | .sign found => [")", "]", "++", "--", "$"].contains found
  | _ => false

/-! ### Numbers -/

/-- The number nearest to a decimal. -/
def ofDecimal (isNegative : Bool) (digits : Nat) (exponent : Int) : Float :=
  let bits := Decimal.magnitudeBits digits exponent
  let size := Float.ofBits (UInt64.ofNat (min bits Decimal.infinityBits))
  if isNegative then -size else size

/-- A decimal without a sign at the head of a text, and the text behind. -/
def takeDecimal? (cs : List Char) : Option (Float × List Char) :=
  let whole := cs.takeWhile Char.isDigit
  let rest := cs.drop whole.length
  let (fraction, rest) :=
    match rest with
    | '.' :: more => (more.takeWhile Char.isDigit, more.dropWhile Char.isDigit)
    | _ => ([], rest)
  if whole ++ fraction = [] then none
  else
    let (exponent, rest) :=
      match rest with
      | letter :: more =>
          let (isNegative, unsigned) := Decimal.splitSign more
          let digits := unsigned.takeWhile Char.isDigit
          if (letter = 'e' ∨ letter = 'E') ∧ digits ≠ [] then
            let size : Int := Decimal.ofDigits digits
            (if isNegative then -size else size, unsigned.drop digits.length)
          else (0, rest)
      | [] => (0, rest)
    some (ofDecimal false (Decimal.ofDigits (whole ++ fraction)) (exponent - fraction.length), rest)

/-! ### Texts -/

/-- The letters that stand for a byte behind a backslash. -/
def textEscapes : List (Char × Char) :=
  [
    ('\x22', '\x22'), ('\\', '\\'), ('n', '\n'), ('t', '\t'), ('r', '\r'), ('a', '\x07'),
    ('b', '\x08'), ('f', '\x0c'), ('v', '\x0b')
  ]

/-- Resolves the escapes of a text. -/
def resolveEscapes : Nat → List Char → List Char
  | 0, _ => []
  | _ + 1, [] => []
  | fuel + 1, '\\' :: c :: cs =>
      match textEscapes.lookup c with
      | some byte => byte :: resolveEscapes fuel cs
      | none =>
          let digits := octalDigits 3 (c :: cs)
          if digits ≠ [] then
            octalByte digits :: resolveEscapes fuel ((c :: cs).drop digits.length)
          else if c = newline then resolveEscapes fuel cs
          else '\\' :: c :: resolveEscapes fuel cs
  | fuel + 1, c :: cs => c :: resolveEscapes fuel cs

/-- Cuts a text off up to the quote that ends it; none if the line ends before. -/
def cutText : Nat → List Char → List Char → Option (List Char × List Char)
  | 0, _, _ => none
  | _ + 1, _, [] => none
  | fuel + 1, taken, '\\' :: c :: cs => cutText fuel (c :: '\\' :: taken) cs
  | fuel + 1, taken, c :: cs =>
      if c = '\x22' then some (taken.reverse, cs)
      else if c = newline then none
      else cutText fuel (c :: taken) cs

/-- Cuts a pattern off up to the slash that ends it; slashes within brackets do not. -/
def cutPattern : Nat → Bool → List Char → List Char → Option (List Char × List Char)
  | 0, _, _, _ => none
  | _ + 1, _, _, [] => none
  | fuel + 1, isInside, taken, '\\' :: c :: cs =>
      if c = '/' then cutPattern fuel isInside (c :: taken) cs
      else cutPattern fuel isInside (c :: '\\' :: taken) cs
  | fuel + 1, isInside, taken, c :: cs =>
      if c = newline then none
      else if c = '/' ∧ !isInside then some (taken.reverse, cs)
      else if c = '[' ∧ !isInside then
        let lead := if cs.head? = some '^' then ['^'] else []
        let lead := if (cs.drop lead.length).head? = some ']' then lead ++ [']'] else lead
        cutPattern fuel true (lead.reverse ++ c :: taken) (cs.drop lead.length)
      else if c = ']' ∧ isInside then cutPattern fuel false (c :: taken) cs
      else cutPattern fuel isInside (c :: taken) cs

/-- The beginning of a text that is not closed, as messages show it. -/
def runaway (opening : Char) (cs : List Char) : String :=
  String.ofList (opening :: (cs.takeWhile (· ≠ newline)).take 10)

/-! ### Tokens -/

def isNameStart (c : Char) : Bool :=
  (c.toNat < 0x80 && c.isAlpha) || c = '_'

def isNamePart (c : Char) : Bool :=
  isNameStart c || c.isDigit

/-- Takes one token off a text that does not start with a blank. -/
def takeToken (canDivide : Bool) (cs : List Char) : Token × List Char :=
  match cs with
  | [] => (.finish, [])
  | '\x22' :: rest =>
      match cutText (rest.length + 1) [] rest with
      | some (text, rest) =>
          (.text (resolveEscapes (text.length + 1) text) (String.ofList text), rest)
      | none =>
          let start := runaway '\x22' rest
          (.bad s!"runaway string constant {start} ..." false, [])
  | c :: rest =>
      if c = newline then (.lineEnd, rest)
      else if c = '/' ∧ !canDivide then
        match cutPattern (rest.length + 1) false [] rest with
        | some (text, rest) => (.pattern text, rest)
        | none =>
            let start := runaway '/' rest
            (.bad s!"runaway regular expression {start} ..." false, [])
      else if isNameStart c then
        let name := cs.takeWhile isNamePart
        let text := String.ofList name
        let rest := cs.drop name.length
        if keywords.contains text ∨ (builtins.lookup text).isSome then (.word text, rest)
        else if rest.head? = some '(' then (.called text, rest)
        else (.name text, rest)
      else
        match takeDecimal? cs with
        | some (value, rest) =>
            let shown := String.ofList (cs.take (cs.length - rest.length))
            if value.isInf then (.bad s!"{shown} : decimal overflow" false, [])
            else (.number value shown, rest)
        | none =>
            match signs.find? (·.toList.isPrefixOf cs) with
            | some sign => (.sign sign, cs.drop sign.length)
            | none => (.bad s!"unexpected character '{String.singleton c}'" true, [])

/-- Takes blanks, comments and continued line ends off a text; tells how many lines end
there.
-/
def skipBlanks : Nat → Nat → List Char → Nat × List Char
  | 0, lines, cs => (lines, cs)
  | fuel + 1, lines, '\\' :: '\n' :: cs => skipBlanks fuel (lines + 1) cs
  | fuel + 1, lines, c :: cs =>
      if c = ' ' ∨ c = '\t' ∨ c = '\r' then skipBlanks fuel lines cs
      else if c = '#' then skipBlanks fuel lines (cs.dropWhile (· ≠ newline))
      else (lines, c :: cs)
  | _ + 1, lines, [] => (lines, [])

/-- The tokens of a program. -/
def tokensFrom : Nat → Nat → Bool → List Char → List Placed
  | 0, line, _, _ => [{ token := .finish, line }]
  | fuel + 1, line, canDivide, cs =>
      let (lines, cs) := skipBlanks (cs.length + 1) 0 cs
      let line := line + lines
      let (token, rest) := takeToken canDivide cs
      match token with
      | .finish => [{ token := .lineEnd, line }, { token, line := line + 1 }]
      | .bad _ _ => [{ token, line }]
      | .lineEnd => { token, line } :: tokensFrom fuel (line + 1) false rest
      | token => { token, line } :: tokensFrom fuel line token.endsValue rest

def tokens (text : List Char) : List Placed :=
  tokensFrom (text.length + 1) 1 false text

/-- A token as messages show it. -/
def Token.shown : Token → String
  | .number _ shown | .text _ shown => shown
  | .pattern cs => s!"/{String.ofList cs}/"
  | .name found | .called found | .word found | .sign found => found
  | .lineEnd => "end of line"
  | .finish => "end of file"
  | .bad problem _ => problem

end MailMerge.Shell.Awk

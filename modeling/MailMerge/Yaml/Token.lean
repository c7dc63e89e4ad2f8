import MailMerge.Yaml.Scalar

/-! The tokens of a document. Indentation is made explicit by tokens that open and close
blocks. That a text was a key is known only at the colon behind it, so the token that says
so goes in front of tokens that are already there.
-/

namespace MailMerge.Yaml

inductive Token where
  | version (major minor : Nat)
  /-- Says what the tags with a handle start with. -/
  | handle (name : String) (start : Bytes)
  | documentStart
  | documentEnd
  | streamEnd
  | openBlockList
  | openBlockMap
  | closeBlock
  | openList
  | closeList
  | openMap
  | closeMap
  | dash
  | comma
  | key
  | value
  | alias (name : String)
  | anchor (name : String)
  | tag (handle : String) (rest : Bytes)
  | scalar (isPlain : Bool) (text : String)
  deriving DecidableEq, Repr

/-! ### Tags and directives -/

/-- Characters of tags, which those in angle brackets add to. -/
def isTagChar (isBracketed : Bool) (c : Char) : Bool :=
  isNameChar c || ";/?:@&=+$.%!~*'()".toList.contains c
    || (isBracketed && (c = ',' || c = '[' || c = ']'))

/-- The number of bytes of the character that starts with some byte. -/
def widthOf? (first : UInt8) : Option Nat :=
  if first < 0x80 then some 1
  else if 0xC0 ≤ first ∧ first < 0xE0 then some 2
  else if 0xE0 ≤ first ∧ first < 0xF0 then some 3
  else if 0xF0 ≤ first ∧ first < 0xF8 then some 4
  else none

def readEscapedByte : Reader UInt8 := do
  expect '%'
  return (← readHex 2 0).toUInt8

/-- Reads escaped bytes that go on a character. -/
def readEscapedRest : Nat → Reader Bytes
  | 0 => return []
  | count + 1 => do
      let byte ← readEscapedByte
      if byte < 0x80 ∨ 0xBF < byte then failure
      return byte :: (← readEscapedRest count)

/-- Reads the characters of a tag, of which some may be escaped. -/
def readTagBytes (isBracketed : Bool) : Nat → Reader Bytes
  | 0 => failure
  | fuel + 1 => do
      match ← head? with
      | none => return []
      | some '%' => do
          let first ← readEscapedByte
          match widthOf? first with
          | none => failure
          | some width => do
              let rest ← readEscapedRest (width - 1)
              return first :: rest ++ (← readTagBytes isBracketed fuel)
      | some c =>
          if isTagChar isBracketed c then do
            next
            return c.toNat.toUInt8 :: (← readTagBytes isBracketed fuel)
          else return []

/-- Reads the characters of a tag; some have to be there. A zero byte ends them. -/
def readTagText (isBracketed mayBeEmpty : Bool) : Reader Bytes := do
  let bytes ← readTagBytes isBracketed ((← ahead).length + 1)
  if bytes = [] ∧ !mayBeEmpty then failure
  return bytes.takeWhile (· ≠ 0)

/-- Reads an exclamation mark and a name, and the mark behind the name if there is one. -/
def readHandle : Reader String := do
  expect '!'
  let name ← takeWhile isNameChar
  if (← head?) = some '!' then
    next
    return String.ofList ('!' :: name ++ ['!'])
  else return String.ofList ('!' :: name)

/-- Whether a handle has an exclamation mark at either end. -/
def isHandle (handle : String) : Bool :=
  1 < handle.length && handle.endsWith "!"

/-- Reads a tag with the character behind it still ahead. -/
def readTagToken : Reader Token := do
  match ← ahead with
  | '!' :: '<' :: _ => do
      skip 2
      let text ← readTagText true false
      expect '>'
      return .tag "" text
  | _ => do
      let handle ← readHandle
      if isHandle handle then return .tag handle (← readTagText false false)
      else
        let rest ← readTagText false true
        let rest := Text.toBytes (handle.drop 1).toString ++ rest
        if rest = [] then return .tag "" (Text.toBytes "!") else return .tag "!" rest

def readTag (inFlow : Bool) : Reader Token := do
  let token ← readTagToken
  let rest ← ahead
  if startsBlank rest ∨ (inFlow ∧ rest.head? = some ',') then return token else failure

/-- Reads the name behind the sign of an anchor or an alias. -/
def readAnchor : Reader String := do
  next
  let name ← takeWhile isNameChar
  let rest ← ahead
  let isEnd :=
    startsBlank rest || rest.head?.any fun c => "?:,]\x7d%@\x60".toList.contains c
  if name = [] ∨ !isEnd then failure
  return String.ofList name

/-- Reads the part of a version number that has at most nine digits. -/
def readVersionPart : Reader Nat := do
  let digits ← takeWhile Char.isDigit
  if digits = [] ∨ 9 < digits.length then failure
  return digits.foldl (fun value c => value * 10 + (c.toNat - '0'.toNat)) 0

/-- Reads a directive and the line that it stands on. -/
def readDirective : Reader Token := do
  next
  let name ← takeWhile isNameChar
  if name = [] ∨ !startsBlank (← ahead) then failure
  let _ ← takeWhile isBlank
  let token ← (do
    match String.ofList name with
    | "YAML" => do
        let major ← readVersionPart
        expect '.'
        return .version major (← readVersionPart)
    | "TAG" => do
        let handle ← readHandle
        if handle ≠ "!" ∧ !isHandle handle then failure
        if !(← head?).any isBlank then failure
        let _ ← takeWhile isBlank
        let start ← readTagText true false
        if !startsBlank (← ahead) then failure
        return .handle handle start
    | _ => failure)
  endLine
  return token

/-! ### The scanner -/

/-- Where a text starts that may turn out to be a key, with the number of its token. A
text that starts a line of a block has to turn out to be one.
-/
structure KeyStart where
  isRequired : Bool
  number : Nat
  offset : Nat
  line : Nat
  column : Nat

/-- What has been read of a text. For the block context and each bracket that is open,
innermost first, there may be a text that may be a key.
-/
structure Scanner where
  cursor : Cursor
  tokens : Array Token
  indent : Int
  outer : List Int
  allowsKey : Bool
  block : Option KeyStart
  brackets : List (Option KeyStart)

namespace Scanner

def start (text : List Char) : Scanner where
  cursor := .start text
  tokens := #[]
  indent := -1
  outer := []
  allowsKey := true
  block := none
  brackets := []

def inFlow (scanner : Scanner) : Bool :=
  scanner.brackets ≠ []

/-- The text in the innermost context that may be a key. -/
def key? (scanner : Scanner) : Option KeyStart :=
  scanner.brackets.headD scanner.block

def setKey (scanner : Scanner) (key : Option KeyStart) : Scanner :=
  match scanner.brackets with
  | [] => { scanner with block := key }
  | _ :: brackets => { scanner with brackets := key :: brackets }

def push (scanner : Scanner) (token : Token) : Scanner :=
  { scanner with tokens := scanner.tokens.push token }

/-- Puts a token in front of the one with a number. -/
def insert (scanner : Scanner) (number : Nat) (token : Token) : Scanner :=
  { scanner with tokens := scanner.tokens.insertIdxIfInBounds number token }

/-- Gives up the text that may be a key in the innermost context. -/
def dropKey (scanner : Scanner) : Option Scanner :=
  if scanner.key?.any (·.isRequired) then none else some (scanner.setKey none)

/-- Notes that a text starts here that may be a key. -/
def noteKey (scanner : Scanner) : Option Scanner := do
  if scanner.allowsKey then
    let cursor := scanner.cursor
    let isRequired := !scanner.inFlow && scanner.indent = cursor.column
    let scanner ← scanner.dropKey
    pure (scanner.setKey (some
      {
        isRequired
        number := scanner.tokens.size
        offset := cursor.offset
        line := cursor.line
        column := cursor.column
      }))
  else pure scanner

/-- The greatest number of bytes between the start of a key and its colon. -/
def maxKeyBytes : Nat := 1024

/-- A key that has not met its colon on its line and near enough is no key any more. -/
def refresh (cursor : Cursor) (key : Option KeyStart) : Option (Option KeyStart) :=
  match key with
  | none => some none
  | some start =>
      if start.line < cursor.line ∨ start.offset + maxKeyBytes < cursor.offset then
        if start.isRequired then none else some none
      else some (some start)

def refreshKeys (scanner : Scanner) : Option Scanner := do
  let block ← refresh scanner.cursor scanner.block
  let brackets ← scanner.brackets.mapM (refresh scanner.cursor)
  pure { scanner with block, brackets }

/-- Opens a block at a column that is further in, with the token at a place. -/
def indentTo (scanner : Scanner) (column number : Nat) (token : Token) : Scanner :=
  if scanner.inFlow ∨ (column : Int) ≤ scanner.indent then scanner
  else
    { scanner.insert number token with
      indent := column
      outer := scanner.indent :: scanner.outer }

/-- Closes the blocks that are further in than a column. -/
def unindent (scanner : Scanner) (column : Int) : Scanner :=
  if scanner.inFlow then scanner
  else close scanner.outer scanner
where
  close : List Int → Scanner → Scanner
    | [], scanner => scanner
    | indent :: outer, scanner =>
        if column < scanner.indent then
          close outer { scanner.push .closeBlock with indent, outer }
        else scanner

/-- Moves to the next token. A tab may stand behind something on its line, and anywhere
within brackets. In a block, a key may start a line.
-/
def skipBlank : Nat → Scanner → Option Scanner
  | 0, _ => none
  | fuel + 1, scanner =>
      let cursor := scanner.cursor
      match cursor.rest with
      | [] => some scanner
      | c :: _ =>
          if c = ' ' ∨ (c = '\t' ∧ (scanner.inFlow ∨ !scanner.allowsKey))
              ∨ (c = byteOrderMark ∧ cursor.column = 0) then
            skipBlank fuel { scanner with cursor := cursor.next }
          else if c = '#' then
            ((takeWhile (!isBreak ·)).run cursor).bind fun (_, cursor) =>
              skipBlank fuel { scanner with cursor }
          else if isBreak c then
            skipBlank fuel
              { scanner with
                cursor := cursor.nextLine
                allowsKey := scanner.allowsKey || !scanner.inFlow }
          else some scanner

end Scanner

/-- An action that reads tokens on. -/
abbrev Scan := StateT Scanner Option

namespace Scan

/-- Reads on without making a token. -/
def reading {α : Type} (reader : Reader α) : Scan α := do
  let scanner ← get
  let (found, cursor) ← reader.run scanner.cursor
  set { scanner with cursor }
  return found

def change (action : Scanner → Option Scanner) : Scan Unit := do
  set (← action (← get))

def push (token : Token) : Scan Unit :=
  modify (·.push token)

def allowKey (isAllowed : Bool) : Scan Unit :=
  modify fun scanner => { scanner with allowsKey := isAllowed }

/-- Takes characters that make a token by themselves. -/
def sign (size : Nat) (token : Token) : Scan Unit := do
  reading (skip size)
  push token

/-- Takes what ends all blocks. -/
def leaveBlocks (reader : Reader Token) : Scan Unit := do
  modify (·.unindent (-1))
  change Scanner.dropKey
  allowKey false
  push (← reading reader)

def openBracket (token : Token) : Scan Unit := do
  change Scanner.noteKey
  modify fun scanner => { scanner with brackets := none :: scanner.brackets }
  allowKey true
  sign 1 token

def closeBracket (token : Token) : Scan Unit := do
  change Scanner.dropKey
  modify fun scanner => { scanner with brackets := scanner.brackets.tail }
  allowKey false
  sign 1 token

/-- Takes the sign of an entry, which may open a block here. -/
def entry (opening token : Token) (allowsKey : Scanner → Bool) : Scan Unit := do
  let scanner ← get
  if !scanner.inFlow ∧ !scanner.allowsKey then failure
  set (scanner.indentTo scanner.cursor.column scanner.tokens.size opening)
  change Scanner.dropKey
  modify fun scanner => { scanner with allowsKey := allowsKey scanner }
  sign 1 token

/-- Takes a colon. The text in front of it on the line is a key, if there is one; else the
key was marked as one.
-/
def colon : Scan Unit := do
  let scanner ← get
  match scanner.key? with
  | some start => do
      let scanner := scanner.insert start.number .key
      set ((scanner.indentTo start.column start.number .openBlockMap).setKey none)
      allowKey false
  | none => do
      if !scanner.inFlow ∧ !scanner.allowsKey then failure
      set (scanner.indentTo scanner.cursor.column scanner.tokens.size .openBlockMap)
      allowKey (!scanner.inFlow)
  sign 1 .value

/-- Takes a token that a key may start with. -/
def text (reader : Reader Token) : Scan Unit := do
  change Scanner.noteKey
  allowKey false
  push (← reading reader)

def plain : Scan Unit := do
  change Scanner.noteKey
  allowKey false
  let scanner ← get
  let size := scanner.cursor.rest.length
  let (text, isBroken) ←
    reading (readPlain scanner.inFlow (scanner.indent + 1).toNat (size + 1) .none)
  if isBroken then allowKey true
  push (.scalar true (String.ofList text))

def quoted (quote : Char) : Scan Unit :=
  text do
    next
    return .scalar false (String.ofList (← readQuoted quote ((← ahead).length + 1)))

def block (isLiteral : Bool) : Scan Unit := do
  change Scanner.dropKey
  allowKey true
  let text ← reading (readBlock isLiteral (← get).indent)
  push (.scalar false (String.ofList text))

def streamEnd : Scan Unit := do
  modify (·.unindent (-1))
  change Scanner.dropKey
  push .streamEnd

/-- Takes the token that stands ahead. -/
def token (c : Char) (behind : List Char) : Scan Unit := do
  let scanner ← get
  let inFlow := scanner.inFlow
  let isBare := inFlow || startsBlank behind
  let isFirst : Bool := scanner.cursor.column = 0
  if isFirst ∧ c = '%' then leaveBlocks readDirective
  else if scanner.cursor.atMarker then
    leaveBlocks do
      skip 3
      return if c = '-' then .documentStart else .documentEnd
  else if c = '[' then openBracket .openList
  else if c = '\x7b' then openBracket .openMap
  else if c = ']' then closeBracket .closeList
  else if c = '\x7d' then closeBracket .closeMap
  else if c = ',' then do
    change Scanner.dropKey
    allowKey true
    sign 1 .comma
  else if c = '-' ∧ startsBlank behind then entry .openBlockList .dash fun _ => true
  else if c = '?' ∧ isBare then entry .openBlockMap .key (!·.inFlow)
  else if c = ':' ∧ isBare then colon
  else if c = '*' then text do return .alias (← readAnchor)
  else if c = '&' then text do return .anchor (← readAnchor)
  else if c = '!' then text (readTag inFlow)
  else if c = '|' ∧ !inFlow then block true
  else if c = '>' ∧ !inFlow then block false
  else if c = '\x27' ∨ c = '\x22' then quoted c
  else if startsPlain inFlow (c :: behind) then plain
  else failure

/-- Takes all tokens. -/
def all : Nat → Scan Unit
  | 0 => failure
  | fuel + 1 => do
      change (Scanner.skipBlank ((← get).cursor.rest.length + 1))
      change Scanner.refreshKeys
      let cursor := (← get).cursor
      modify (·.unindent cursor.column)
      match cursor.rest with
      | [] => streamEnd
      | c :: behind => do
          token c behind
          all fuel

end Scan

/-- Characters that may stand in a document. -/
def isPrintable (c : Char) : Bool :=
  c = '\t' || c = '\n' || c = '\r' || (' ' ≤ c && c ≤ '~') || c = nextLine
    || (0xA0 ≤ c.toNat && c.toNat ≠ 0xFFFE && c.toNat ≠ 0xFFFF)

/-- The tokens of a text; none where the text is no document. -/
def Token.ofText (text : String) : Option (List Token) :=
  let cs := text.toList
  if cs.all isPrintable then
    ((Scan.all (cs.length + 1)).run (.start cs)).map (·.2.tokens.toList)
  else none

end MailMerge.Yaml

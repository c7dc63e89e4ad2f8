import MailMerge.Shell.Utility.Order

/-! Filling paragraphs: words are set into lines of about the same length. Each way to break
a paragraph has a cost, and the cheapest one is taken.
-/

namespace MailMerge.Shell.Utility

open Work

namespace Paragraph

/-! ### Words -/

structure Word where
  text : List Char
  /-- The room behind the word within a line. -/
  space : Nat
  isOpen : Bool
  hasPeriod : Bool
  hasMark : Bool
  /-- Whether a sentence ends with the word. -/
  isFinal : Bool
  deriving Inhabited

def isMark (c : Char) : Bool :=
  '!' ≤ c && c ≤ '~' && !c.isAlphanum

/-- A word, of which it is not known yet what stands behind it. -/
def wordOf (text : List Char) : Word where
  text
  space := 1
  isOpen := text.head?.any "(['\x60\x22".toList.contains
  hasMark := text.getLast?.any isMark
  hasPeriod :=
    let body := (text.reverse.take (text.length - 1)).dropWhile ")]'\x22".toList.contains
    (body.head? <|> text.head?).any ".?!".toList.contains
  isFinal := false

/-! ### The cheapest breaks -/

def square (n : Int) : Int :=
  n * n

def shortCost (n : Int) : Int :=
  square (n * 10)

def raggedCost (n : Int) : Int :=
  shortCost n / 2

/-- What it costs to start a line with a word, by the words in front of it. -/
def startCost (words : Array Word) (i : Nat) : Int :=
  let word := words[i]!
  let before : Int :=
    if i = 0 then 0
    else
      let last := words[i - 1]!
      if last.hasPeriod then if last.isFinal then -square 50 else square 600
      else if last.hasMark then -square 40
      else if 1 < i ∧ words[i - 2]!.isFinal then square 200 / (last.text.length + 2)
      else 0
  let own : Int :=
    if word.isOpen then -square 40
    else if word.isFinal then square 150 / (word.text.length + 2)
    else 0
  square 70 + before + own

/-- How a line that starts with a word is best set: its length, the word behind it, and the
cost of it and of all that follows.
-/
structure Break where
  size : Nat
  next : Nat
  cost : Int
  deriving Inhabited

structure Measures where
  width : Nat
  goal : Nat

/-- What a line of a length costs in front of a word, the lines behind being known. -/
def lineCost (measures : Measures) (count : Nat) (breaks : List Break) (next size : Nat) : Int :=
  match breaks with
  | [] => 0
  | behind :: _ =>
      if next = count then 0
      else
        let short := shortCost ((measures.goal : Int) - size)
        if behind.next = count then short else short + raggedCost ((size : Int) - behind.size)

/-- The best break of a line among those that are as long or longer; the breaks behind it
are known, the nearest one first.
-/
def bestBreak (measures : Measures) (words : Array Word) (start : Nat)
    : Nat → Nat → Nat → List Break → Option Break → Option Break
  | 0, _, _, _, best => best
  | fuel + 1, next, size, breaks, best =>
      let behind := (breaks.head?.map Break.cost).getD 0
      let cost := lineCost measures words.size breaks next size + behind
      let best :=
        if best.all (cost < ·.cost) then some { size, next, cost } else best
      if next = words.size then best
      else
        let size := size + words[next - 1]!.space + words[next]!.text.length
        if measures.width ≤ size then best
        else bestBreak measures words start fuel (next + 1) size breaks.tail best

/-- The breaks of the lines that could start with the last words, the first of them first. -/
def breaksFrom (measures : Measures) (words : Array Word) (firstIndent otherIndent : Nat)
    : Nat → List Break
  | 0 => []
  | count + 1 =>
      let breaks := breaksFrom measures words firstIndent otherIndent count
      let start := words.size - (count + 1)
      let indent := if start = 0 then firstIndent else otherIndent
      let size := indent + words[start]!.text.length
      match bestBreak measures words start (words.size + 1) (start + 1) size breaks none with
      | some best => { best with cost := best.cost + startCost words start } :: breaks
      | none => breaks

/-! ### Lines of the input -/

/-- The input ahead, with the column that has been reached. -/
structure Ahead where
  rest : List Char
  column : Nat
  /-- The column of the prefix of the line. -/
  prefixColumn : Nat
  /-- Whether a tab has been met so far. -/
  hasTabs : Bool

def tabWidth : Nat := 8

/-- Goes on over blanks. -/
def Ahead.skipBlanks (ahead : Ahead) : Ahead :=
  let blanks := ahead.rest.takeWhile isBlankChar
  let column := blanks.foldl
    (fun column c => if c = '\t' then (column / tabWidth + 1) * tabWidth else column + 1)
    ahead.column
  { ahead with
    rest := ahead.rest.drop blanks.length
    column
    hasTabs := ahead.hasTabs || blanks.contains '\t' }

structure Style where
  measures : Measures
  isCrown : Bool
  isTagged : Bool
  isSplit : Bool
  isUniform : Bool
  /-- What the lines start with that are to be filled, without blanks around. -/
  mark : List Char
  /-- The blanks in front of the mark. -/
  markIndent : Nat
  /-- The mark with the blanks behind it. -/
  fullMark : Nat

/-- Goes on over the start of a line, up to its first word. -/
def Ahead.startLine (style : Style) (ahead : Ahead) : Ahead :=
  let ahead := { ahead with column := 0 }.skipBlanks
  if style.mark = [] then { ahead with prefixColumn := min style.markIndent ahead.column }
  else
    let ahead := { ahead with prefixColumn := ahead.column }
    let shared := ((ahead.rest.zip style.mark).takeWhile fun (x, y) => x = y).length
    let after :=
      { ahead with rest := ahead.rest.drop shared, column := ahead.column + shared }
    if shared = style.mark.length then after.skipBlanks else after

def Ahead.isAtEnd (ahead : Ahead) : Bool :=
  ahead.rest.head?.all (· = newline)

/-- Reads the words of a line, and goes on to the first word of the next one. -/
def readWords (style : Style) : Nat → Ahead → List Word → List Word × Ahead
  | 0, ahead, words => (words, ahead)
  | fuel + 1, ahead, words =>
      let text := ahead.rest.takeWhile (!isSpace ·)
      let text := if text = [] then ahead.rest.take 1 else text
      let before := { ahead with
        rest := ahead.rest.drop text.length, column := ahead.column + text.length }
      let after := before.skipBlanks
      let word := wordOf text
      let space := after.column - before.column
      let isFinal :=
        after.rest = [] || (word.hasPeriod && (after.isAtEnd || 1 < space))
      let space := if after.isAtEnd ∨ style.isUniform then if isFinal then 2 else 1 else space
      let words := { word with space, isFinal } :: words
      if after.isAtEnd then (words, { after with rest := after.rest.tail }.startLine style)
      else readWords style fuel after words

/-! ### Output -/

/-- Blanks from a column on; tabs are used if the text has some. -/
def blanks (hasTabs : Bool) (column count : Nat) : List Char :=
  let target := column + count
  let tabTarget := target / tabWidth * tabWidth
  if hasTabs ∧ column + 1 < tabTarget then
    List.replicate (tabTarget / tabWidth - column / tabWidth) '\t'
      ++ List.replicate (target - tabTarget) ' '
  else List.replicate count ' '

/-- A line of words behind the prefix and an indent. -/
def setLine (style : Style) (hasTabs : Bool) (markColumn indent : Nat) (words : List Word)
    : List Char :=
  let front := blanks hasTabs 0 markColumn
  let column := markColumn + style.mark.length
  let inset := blanks hasTabs column (indent - column)
  let column := max column indent
  let (shown, _) :=
    words.foldl
      (fun ((shown, column, gap) : List (List Char) × Nat × Nat) word =>
        let space := blanks hasTabs column gap
        (word.text :: space :: shown, column + gap + word.text.length, word.space))
      ([], column, 0)
  front ++ style.mark ++ inset ++ shown.reverse.flatten ++ [newline]

/-- The lines of a paragraph, from a word on. -/
def setLines (style : Style) (hasTabs : Bool) (markColumn otherIndent : Nat)
    (words : Array Word) (breaks : Array Break)
    : Nat → Nat → Nat → List (List Char) → List Char
  | 0, _, _, done => done.reverse.flatten
  | fuel + 1, start, indent, done =>
      if start < words.size then
        let next := max (start + 1) breaks[start]!.next
        let line :=
          setLine style hasTabs markColumn indent (words.extract start next).toList
        setLines style hasTabs markColumn otherIndent words breaks fuel next otherIndent
          (line :: done)
      else done.reverse.flatten

/-- A line that is left as it is, and what stands behind it. -/
def keepLine (style : Style) (ahead : Ahead) : List Char × Ahead :=
  let text := ahead.rest.takeWhile (· ≠ newline)
  let hasText : Bool := text ≠ []
  let isMarked : Bool := ahead.prefixColumn < ahead.column || hasText
  let front :=
    if isMarked then
      let mark := style.mark.take (ahead.column - ahead.prefixColumn)
      let column := ahead.prefixColumn + mark.length
      blanks ahead.hasTabs 0 ahead.prefixColumn ++ mark
        ++ (if hasText then blanks ahead.hasTabs column (ahead.column - column) else [])
    else []
  (front ++ text, { ahead with rest := ahead.rest.drop text.length })

/-! ### Paragraphs -/

/-- Reads the lines that belong to a paragraph, behind its first one. -/
def readMore (style : Style) (markColumn indent : Nat)
    : Nat → Ahead → List Word → List Word × Ahead
  | 0, ahead, words => (words, ahead)
  | fuel + 1, ahead, words =>
      let isSame :=
        ahead.prefixColumn = markColumn && ahead.prefixColumn + style.fullMark ≤ ahead.column
          && !ahead.isAtEnd && ahead.column = indent
      if isSame then
        let (words, ahead) := readWords style (ahead.rest.length + 1) ahead words
        readMore style markColumn indent fuel ahead words
      else (words, ahead)

/-- Fills the paragraphs ahead; the indent of the lines behind the first one is kept from
one paragraph to the next.
-/
def fillFrom (style : Style) : Nat → Nat → Ahead → List (List Char) → List Char
  | 0, _, _, done => done.reverse.flatten
  | fuel + 1, otherIndent, ahead, done =>
      let isOther :=
        ahead.isAtEnd || ahead.prefixColumn < style.markIndent
          || ahead.column < ahead.prefixColumn + style.fullMark
      if isOther then
        let (line, ahead) := keepLine style ahead
        match ahead.rest with
        | [] =>
            let isMarked : Bool :=
              line ≠ [] && ahead.prefixColumn + style.mark.length ≤ ahead.column
            let done := if isMarked then [newline] :: line :: done else line :: done
            done.reverse.flatten
        | _ :: rest =>
            fillFrom style fuel otherIndent ({ ahead with rest }.startLine style)
              ([newline] :: line :: done)
      else
        let markColumn := ahead.prefixColumn
        let firstIndent := ahead.column
        let (words, ahead) := readWords style (ahead.rest.length + 1) ahead []
        let isSame :=
          ahead.prefixColumn = markColumn && ahead.prefixColumn + style.fullMark ≤ ahead.column
            && !ahead.isAtEnd
        let otherIndent :=
          if style.isSplit then firstIndent
          else if style.isCrown then if isSame then ahead.column else firstIndent
          else if style.isTagged then
            if isSame && ahead.column ≠ firstIndent then ahead.column
            else if otherIndent = firstIndent then if firstIndent = 0 then 3 else 0
            else otherIndent
          else firstIndent
        let goesOn :=
          !style.isSplit && (!style.isTagged || style.isCrown || (isSame && ahead.column ≠ firstIndent))
        let (words, ahead) :=
          if goesOn then readMore style markColumn otherIndent (ahead.rest.length + 1) ahead words
          else (words, ahead)
        let words :=
          match words with
          | last :: others => { last with hasPeriod := true, isFinal := true } :: others
          | [] => []
        let words := words.reverse.toArray
        let breaks :=
          (breaksFrom style.measures words firstIndent otherIndent words.size).toArray
        let text :=
          setLines style ahead.hasTabs markColumn otherIndent words breaks (words.size + 1) 0
            firstIndent []
        fillFrom style fuel otherIndent ahead (text :: done)

/-- Fills the paragraphs of a text. -/
def fill (style : Style) (text : List Char) : List Char :=
  let ahead : Ahead := { rest := text, column := 0, prefixColumn := 0, hasTabs := false }
  fillFrom style (text.length + 2) 0 (ahead.startLine style) []

end Paragraph

def maxWidth : Nat := 2500

def fillParagraphs (words : List String) : Work Nat := do
  let name := "fmt"
  let words :=
    match words with
    | word :: rest =>
        if word.startsWith "-" ∧ (word.toList.tail.head?.any Char.isDigit) = true then
          "-w" :: (word.drop 1).toString :: rest
        else words
    | [] => []
  let switches :=
    Switches.of "cstu" "pwg"
      [
        ("crown-margin", 'c'), ("split-only", 's'), ("tagged-paragraph", 't'),
        ("uniform-spacing", 'u'), ("prefix", 'p'), ("width", 'w'), ("goal", 'g')
      ]
  let arguments ← arguments switches 1 name words
  let number (letter : Char) (most : Nat) : Work (Option Nat) := do
    match arguments.value? letter with
    | none => return none
    | some text =>
        match natOf? text with
        | none => fail 1 name s!"invalid width: {marked text}"
        | some n =>
            if most < n then
              fail 1 name s!"invalid width: {marked text}: Numerical result out of range"
            return some n
  let width ← number 'w' maxWidth
  let goal ← number 'g' (width.getD 75)
  let measures : Paragraph.Measures :=
    match width, goal with
    | some width, some goal => { width, goal }
    | some width, none => { width, goal := width * 187 / 200 }
    | none, some goal => { width := goal + 10, goal }
    | none, none => { width := 75, goal := 75 * 187 / 200 }
  let full := ((arguments.value? 'p').getD "").toList
  let body := full.dropWhile (· = ' ')
  let style : Paragraph.Style :=
    {
      measures
      isCrown := arguments.has 'c'
      isTagged := arguments.has 't'
      isSplit := arguments.has 's'
      isUniform := arguments.has 'u'
      mark := (body.reverse.dropWhile (· = ' ')).reverse
      markIndent := full.length - body.length
      fullMark := body.length
    }
  let mut isFine := true
  for path in orInput arguments.operands do
    match ← readOperand? name openProblem path with
    | some text => say (Paragraph.fill style text)
    | none => isFine := false
  return statusOf isFine

end MailMerge.Shell.Utility

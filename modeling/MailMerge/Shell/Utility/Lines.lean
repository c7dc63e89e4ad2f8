import MailMerge.Shell.Expression
import MailMerge.Shell.Switches

/-! Utilities that pass lines on: all of them, the first or last ones, in another order, with
numbers, in pieces, or side by side.
-/

namespace MailMerge.Shell.Utility

open Work

/-- The content of an operand, none if it cannot be read. What is wrong is reported. -/
def readOperand? (name : String) (problem : String → Files.FileError → String) (path : String)
    : Work (Option (List Char)) := do
  match ← content path with
  | .ok text => return some text
  | .error e => do
      warn name (problem path e)
      return none

def plainProblem (path : String) (e : Files.FileError) : String :=
  s!"{quotedAsNeeded path}: {e.reason}"

/-- The operands, or the input where there are none. -/
def orInput (operands : List String) : List String :=
  if operands.isEmpty then ["-"] else operands

/-- The content of operands one after the other, and whether all could be read. -/
def readAll (name : String) (problem : String → Files.FileError → String)
    (operands : List String) : Work (List Char × Bool) := do
  let contents ← (orInput operands).mapM (readOperand? name problem)
  return (contents.flatMap (·.getD []), contents.all Option.isSome)

def statusOf (isFine : Bool) : Nat :=
  if isFine then 0 else 1

/-- The mark that ends lines: another one on request. -/
def lineMark (arguments : Arguments) : Char :=
  if arguments.has 'z' then '\x00' else newline

/-- The pieces of a text, each with the mark that ends it. -/
def fullPieces (mark : Char) (text : List Char) : List (List Char) :=
  let pieces := splitAt mark text
  if text.getLast?.any (· ≠ mark) then
    pieces.dropLast.map (· ++ [mark]) ++ pieces.getLast?.toList
  else pieces.map (· ++ [mark])

/-- The lines of a text, each with the line feed that ends it. -/
def fullLines (text : List Char) : List (List Char) :=
  fullPieces newline text

/-- A number in a column of its own. -/
def numbered (width number : Nat) : List Char :=
  padLeft width (toString number).toList

/-! ### Showing all -/

/-- A byte by marks that can be seen. -/
def visible (c : Char) : List Char :=
  let low (c : Char) : List Char :=
    if c.toNat < 32 then ['^', Char.ofNat (c.toNat + 64)]
    else if c.toNat = 127 then ['^', '?']
    else [c]
  if c.toNat < 128 then low c else 'M' :: '-' :: low (Char.ofNat (c.toNat - 128))

/-- Leaves out empty lines that follow an empty line. -/
def squeezeEmpty (lines : List (List Char)) : List (List Char) :=
  (lines.foldl
    (fun (kept, wasEmpty) line =>
      let isEmpty : Bool := line = [newline]
      if isEmpty && wasEmpty then (kept, true) else (line :: kept, isEmpty))
    ([], false)).1.reverse

/-- Puts a number in front of the lines that a test holds for. -/
def numberLines (test : List Char → Bool) (label : Nat → List Char)
    (lines : List (List Char)) : List (List Char) :=
  (lines.foldl
    (fun (done, count) line =>
      if test line then ((label count ++ line) :: done, count + 1) else (line :: done, count))
    ([], 1)).1.reverse

def showContent (words : List String) : Work Nat := do
  let name := "cat"
  let switches :=
    Switches.of "AbeEnstTuv" ""
      [
        ("show-all", 'A'), ("number-nonblank", 'b'), ("show-ends", 'E'), ("number", 'n'),
        ("squeeze-blank", 's'), ("show-tabs", 'T'), ("show-nonprinting", 'v')
      ]
  let arguments ← arguments switches 1 name words
  let any (letters : String) : Bool := letters.toList.any arguments.has
  let contents ← (orInput arguments.operands).mapM fun path => do
    if ((← outputPlace? path).getD 0) > 0 then
      warn name s!"{quotedAsNeeded path}: input file is output file"
      return none
    else readOperand? name plainProblem path
  let text := contents.flatMap (·.getD [])
  let isFine := contents.all Option.isSome
  if arguments.found.isEmpty then say text
  else
    let lines := fullLines text
    let lines := if any "s" then squeezeEmpty lines else lines
    let show1 (c : Char) : List Char :=
      if c = newline then if any "AeE" then ['$', c] else [c]
      else if c = '\t' then if any "AtT" then ['^', 'I'] else [c]
      else if any "Aetv" then visible c
      else [c]
    let lines := lines.map (·.flatMap show1)
    let label (number : Nat) : List Char := numbered 6 number ++ ['\t']
    let isFilled (line : List Char) : Bool := line ≠ [newline] && line ≠ ['$', newline]
    let lines :=
      if any "b" then numberLines isFilled label lines
      else if any "n" then numberLines (fun _ => true) label lines
      else lines
    say lines.flatten
  return statusOf isFine

/-! ### First and last parts -/

/-- How much of a text is wanted. -/
structure Portion where
  ofLines : Bool
  mark : Char
  count : Nat
  /-- Whether the other end of the text is what is counted from. -/
  isRest : Bool

def openProblem (path : String) (e : Files.FileError) : String :=
  match e with
  | .isDirectory => s!"error reading {quoted path}: {e.reason}"
  | _ => s!"cannot open {quoted path} for reading: {e.reason}"

/-- The portion that the switches ask for; the sign makes it the rest. -/
def portion (name : String) (sign : Char) (arguments : Arguments) : Work Portion := do
  let mark := lineMark arguments
  match arguments.found.reverse.find? fun found => found.1 = 'n' || found.1 = 'c' with
  | none => return { ofLines := true, mark, count := 10, isRest := false }
  | some (letter, value) => do
      let cs := value.toList
      let isRest : Bool := cs.head? = some sign
      let isSigned : Bool := isRest || cs.head? = some '-' || cs.head? = some '+'
      let number := if isSigned then (value.drop 1).toString else value
      match countOf? number with
      | some count => return { ofLines := letter = 'n', mark, count, isRest }
      | none => do
          let things := if letter = 'n' then "lines" else "bytes"
          let shown := if isSigned && !isRest then number else value
          let shown := if sign = '-' then number else shown
          fail 1 name s!"invalid number of {things}: {marked shown}"

/-- The first or last part of a text. -/
def Portion.first (portion : Portion) (text : List Char) : List Char :=
  if portion.ofLines then
    let lines := fullPieces portion.mark text
    (lines.take (if portion.isRest then lines.length - portion.count else portion.count)).flatten
  else text.take (if portion.isRest then text.length - portion.count else portion.count)

def Portion.last (portion : Portion) (text : List Char) : List Char :=
  let skipped (size : Nat) : Nat :=
    if portion.isRest then portion.count - 1 else size - portion.count
  if portion.ofLines then
    let lines := fullPieces portion.mark text
    (lines.drop (skipped lines.length)).flatten
  else text.drop (skipped text.length)

/-- The switches that a number behind a dash and the letters behind it stand for at the
head of a text.
-/
def spellFirst (word : String) : Work (List String) := do
  let digits := word.toList.tail.takeWhile Char.isDigit
  let letters := word.toList.tail.drop digits.length
  if word.toList.head? ≠ some '-' ∨ digits = [] then return [word]
  let mut unit := ("-n", "")
  let mut more : List String := []
  for c in letters do
    if c = 'c' then unit := ("-c", "")
    else if c = 'b' ∨ c = 'k' ∨ c = 'm' then unit := ("-c", String.singleton c)
    else if c = 'l' then unit := ("-n", "")
    else if c = 'q' ∨ c = 'v' ∨ c = 'z' then more := more ++ [String.ofList ['-', c]]
    else misuse 1 "head" s!"invalid trailing option -- {c}"
  return unit.1 :: (String.ofList digits ++ unit.2) :: more

/-- The switches that a signed number and a letter behind it stand for at the end of a
text. It may stand in front of one operand at most.
-/
def spellLast (words : List String) : List String :=
  let isAlone : Bool :=
    match words with
    | [_] => true
    | [_, "--"] => true
    | [_, "--", _] => true
    | [_, operand] => operand = "-" || !operand.startsWith "-"
    | _ => false
  match words with
  | word :: rest =>
      let sign := word.toList.headD ' '
      let digits := word.toList.tail.takeWhile Char.isDigit
      let behind := word.toList.tail.drop digits.length
      let isBare : Bool := digits = [] && (behind = [] || behind = ['c'])
      if !isAlone ∨ (sign ≠ '-' ∧ sign ≠ '+') ∨ (sign = '-' ∧ isBare) then words
      else
        let number := String.ofList (if digits = [] then ['1', '0'] else digits)
        let signed := if sign = '+' then "+" ++ number else number
        match behind with
        | [] => "-n" :: signed :: rest
        | ['l'] => "-n" :: signed :: rest
        | ['c'] => "-c" :: signed :: rest
        | ['b'] => "-c" :: (signed ++ "b") :: rest
        | _ => words
  | [] => []

/-- Shows a part of each operand, with its name above it if there are several. -/
def showParts (name : String) (switches : Switches) (words : List String) (sign : Char)
    (part : Portion → Option String → List Char → Work (List Char)) : Work Nat := do
  let arguments ← arguments switches 1 name words
  match (arguments.found.map Prod.fst).find? Char.isDigit with
  | some digit =>
      if name = "tail" then fail 1 name s!"option used in invalid context -- {digit}"
      else misuse 1 name s!"invalid trailing option -- {digit}"
  | none => pure ()
  let portion ← portion name sign arguments
  let operands := orInput arguments.operands
  let letters := arguments.found.map Prod.fst
  let isTitled : Bool :=
    match letters.reverse.find? fun c => c = 'q' || c = 'v' with
    | some letter => letter = 'v'
    | none => 1 < operands.length
  let mut isFine := true
  let mut isFirst := true
  for path in operands do
    let before := (← get).input
    match ← readOperand? name openProblem path with
    | none => isFine := false
    | some text => do
        if isTitled then
          let title := if path = "-" then "standard input" else path
          sayLine ((if isFirst then "" else "\n") ++ s!"==> {title} <==")
        isFirst := false
        let isInput := path = "-" || path = "/dev/stdin"
        if isInput then modify fun station => { station with input := before }
        if name = "head" ∧ !portion.isRest then
          modify fun station => { station with isEndless := false }
        say (← part portion (if isInput then some path else none) text)
  return statusOf isFine

def partSwitches : Switches :=
  Switches.of "qvzfF0123456789" "nc"
    [
      ("lines", 'n'), ("bytes", 'c'), ("quiet", 'q'), ("silent", 'q'), ("verbose", 'v'),
      ("zero-terminated", 'z'), ("follow", 'f')
    ]

/-- Leaves of the input what stands behind a number of bytes that are read in blocks; what
can be handed back is.
-/
def leaveBehind (used block : Nat) : Work Unit :=
  modify fun station =>
    let taken := if station.isSeekable then used else (used + block - 1) / block * block
    { station with
      input := station.input.drop taken
      needed := if used < station.input.length then some used else none }

def showFirst (words : List String) : Work Nat := do
  let words := (← (words.take 1).mapM spellFirst).flatten ++ words.drop 1
  showParts "head" partSwitches words '-' fun portion input? text => do
    let shown := portion.first text
    if input?.isSome then
      if portion.isRest then let _ ← takeInput
      else leaveBehind shown.length (if portion.ofLines then 8192 else 1)
    return shown

def showLast (words : List String) : Work Nat := do
  let words := spellLast words
  match (words.headD "").toList with
  | '-' :: digit :: _ =>
      if digit.isDigit then fail 1 "tail" s!"option used in invalid context -- {digit}"
  | _ => pure ()
  showParts "tail" partSwitches words '+' fun portion input? text => do
    if input?.isSome then let _ ← takeInput
    return portion.last text

/-! ### Other orders and shapes -/

/-- The last place where a mark stands, and its size. -/
def lastMark? (sizeOf? : List Char → Option Nat) (text : List Char) : Option (Nat × Nat) :=
  (List.range text.length).reverse.findSome? fun i => (sizeOf? (text.drop i)).map (i, ·)

/-- The pieces of a text with their marks, the last piece first; a mark stands behind its
piece, or in front of it.
-/
def piecesBackward (sizeOf? : List Char → Option Nat) (isBefore : Bool)
    : Nat → List Char → List Char → List (List Char)
  | 0, text, rest => [text ++ rest]
  | fuel + 1, text, rest =>
      match lastMark? sizeOf? text with
      | none => [text ++ rest]
      | some (start, size) =>
          let mark := (text.drop start).take size
          let between := text.drop (start + size)
          let front := text.take start
          if isBefore then
            (mark ++ between ++ rest) :: piecesBackward sizeOf? isBefore fuel front []
          else (between ++ rest) :: piecesBackward sizeOf? isBefore fuel front mark

def showReversed (words : List String) : Work Nat := do
  let name := "tac"
  let names := [("before", 'b'), ("regex", 'r'), ("separator", 's')]
  let arguments ← arguments (Switches.of "br" "s" names) 1 name words
  let problem (path : String) (e : Files.FileError) : String :=
    match e with
    | .isDirectory => s!"{quotedAsNeeded path}: read error: Invalid argument"
    | _ => s!"failed to open {quoted path} for reading: {e.reason}"
  let mark := (arguments.value? 's').map String.toList
  if arguments.has 'r' ∧ mark = some [] then fail 1 name "separator cannot be empty"
  let mark := if mark = some [] then ['\x00'] else mark.getD [newline]
  let sizeOf? ←
    if arguments.has 'r' then
      let dialect : Expression.Dialect :=
        { isExtended := true, ignoresCase := false, isLenient := true, isMultiline := false }
      match Expression.read? dialect mark with
      | .error problem => fail 1 name problem
      | .ok expression =>
          pure fun (text : List Char) =>
            match expression.find? none text with
            | some found =>
                if found.before = [] ∧ found.text ≠ [] then some found.text.length else none
            | none => none
    else
      pure fun (text : List Char) => if mark.isPrefixOf text then some mark.length else none
  let contents ← (orInput arguments.operands).mapM (readOperand? name problem)
  let isPlain : Bool := mark.length = 1 && !arguments.has 'r' && !arguments.has 'b'
  say <|
    contents.flatMap fun text =>
      let text := text.getD []
      if isPlain then (fullPieces (mark.headD newline) text).reverse.flatten
      else
        (piecesBackward sizeOf? (arguments.has 'b') (text.length + 1) text []).flatten
  return statusOf (contents.all Option.isSome)

def reverseLines (words : List String) : Work Nat := do
  let name := "rev"
  let arguments ← arguments (Switches.of "" "" []) 1 name words
  let problem (path : String) (e : Files.FileError) : String :=
    s!"cannot open {path}: {e.reason}"
  let (text, isFine) ← readAll name problem arguments.operands
  let turned := (splitLines text).map fun line => line.reverse
  let joined := joinLines turned
  say (if isOpenEnded text then joined.dropLast else joined)
  return statusOf isFine

def numberContent (words : List String) : Work Nat := do
  let name := "nl"
  let switches := Switches.of "p" "bdfhilnsvw" [("body-numbering", 'b')]
  let arguments ← arguments switches 1 name words
  let value (letter : Char) (usual : String) : String := (arguments.value? letter).getD usual
  let style := value 'b' "t"
  let layout := value 'n' "rn"
  if !(["a", "t", "n"].contains style) then
    misuse 1 name s!"invalid body numbering style: {marked style}"
  if !(["ln", "rn", "rz"].contains layout) then
    misuse 1 name s!"invalid line numbering format: {marked layout}"
  let number (letter : Char) (usual thing : String) (least : Nat) : Work Nat :=
    match natOf? (value letter usual) with
    | some n =>
        if least ≤ n then return n
        else fail 1 name s!"invalid {thing}: {marked (toString n)}: Numerical result out of range"
    | none => fail 1 name s!"invalid {thing}: {marked (value letter usual)}"
  let width ← number 'w' "6" "line number field width" 1
  let first ← number 'v' "1" "starting line number" 0
  let step ← number 'i' "1" "line number increment" 0
  let separator := (value 's' "\t").toList
  let (text, isFine) ← readAll name plainProblem arguments.operands
  let label (number : Nat) : List Char :=
    let digits := (toString number).toList
    if layout = "ln" then padRight width digits
    else if layout = "rz" then List.replicate (width - digits.length) '0' ++ digits
    else padLeft width digits
  let blank := List.replicate (width + separator.length) ' '
  let lines := splitLines text
  let shown :=
    (lines.foldl
      (fun (done, number) line =>
        if style = "a" || (style = "t" && line ≠ []) then
          ((label number ++ separator ++ line) :: done, number + step)
        else ((blank ++ line) :: done, number))
      ([], first)).1.reverse
  say (joinLines shown)
  return statusOf isFine

/-- Cuts a line into pieces of a width; where that is asked for, behind the last blank that
fits.
-/
def foldLine (width : Nat) (atBlanks : Bool) : Nat → List Char → List (List Char)
  | 0, line => [line]
  | fuel + 1, line =>
      if line.length ≤ width then [line]
      else
        let piece := line.take width
        let fitting := (piece.reverse.dropWhile fun c => c ≠ ' ' && c ≠ '\t').reverse
        let piece := if atBlanks ∧ fitting ≠ [] then fitting else piece
        piece :: foldLine width atBlanks fuel (line.drop piece.length)

def foldContent (words : List String) : Work Nat := do
  let name := "fold"
  let words := words.map fun word =>
    if word.startsWith "-" ∧ (natOf? (word.drop 1).toString).isSome then
      "-w" ++ (word.drop 1).toString
    else word
  let switches := Switches.of "bs" "w" [("bytes", 'b'), ("spaces", 's'), ("width", 'w')]
  let arguments ← arguments switches 1 name words
  let text := (arguments.value? 'w').getD "80"
  match natOf? text with
  | none => fail 1 name s!"invalid number of columns: {marked text}"
  | some 0 =>
      fail 1 name s!"invalid number of columns: {marked text}: Numerical result out of range"
  | some width => do
      let (text, isFine) ← readAll name plainProblem arguments.operands
      let folded := (splitLines text).flatMap fun line =>
        foldLine width (arguments.has 's') line.length line
      let joined := joinLines folded
      say (if isOpenEnded text then joined.dropLast else joined)
      return statusOf isFine

/-- Delimiters with the meaning of backslashes. -/
def delimiters : List Char → List (List Char)
  | '\\' :: c :: cs =>
      (match c with
        | 'n' => ['\n']
        | 't' => ['\t']
        | '0' => []
        | c => [c])
        :: delimiters cs
  | c :: cs => [c] :: delimiters cs
  | [] => []

/-- Joins texts by delimiters that are used in turn. -/
def joinInTurn (marks : List (List Char)) (texts : List (List Char)) : List Char :=
  (texts.zipIdx.map fun (text, i) =>
    (if i = 0 then [] else marks.getD ((i - 1) % marks.length) []) ++ text).flatten

/-- Takes the lines of files side by side, as many at a time as there are files. -/
def besideRows (files : List (List (List Char))) : List (List (List Char)) :=
  let columns := files.map List.toArray
  let count := (columns.map Array.size).foldl max 0
  (List.range count).map fun i => columns.map fun lines => lines.getD i []

def pasteContent (words : List String) : Work Nat := do
  let name := "paste"
  let switches := Switches.of "sz" "d" [("delimiters", 'd'), ("serial", 's'), ("zero-terminated", 'z')]
  let arguments ← arguments switches 1 name words
  let marks := delimiters ((arguments.value? 'd').getD "\t").toList
  let marks := if marks.isEmpty then [[]] else marks
  let operands := orInput arguments.operands
  let inputs := operands.countP (· = "-")
  let isSerial := arguments.has 's'
  let mut isFine := true
  let mut files : List (List (List Char)) := []
  let mark := lineMark arguments
  let input ← if inputs > 0 then takeInput else pure []
  let own := splitAt mark input
  let mut turn := 0
  for path in operands do
    if path = "-" then
      let lines :=
        if isSerial then if turn = 0 then own else []
        else (own.zipIdx.filter fun (_, i) => i % inputs = turn).map Prod.fst
      files := files ++ [lines]
      turn := turn + 1
    else
      match ← readOperand? name plainProblem path with
      | some text => files := files ++ [splitAt mark text]
      | none => do
          isFine := false
          if !isSerial then quit 1
  if isSerial then say (joinAt mark (files.map (joinInTurn marks)))
  else say (joinAt mark ((besideRows files).map (joinInTurn marks)))
  return statusOf isFine

/-- Copies the input to the output and to files. -/
def spread (words : List String) : Work Nat := do
  let name := "tee"
  let switches := Switches.of "aip" "" [("append", 'a'), ("ignore-interrupts", 'i')]
  let arguments ← arguments switches 1 name words
  let text ← takeInput
  say text
  let mut isFine := true
  for path in arguments.operands do
    if path = "/dev/stderr" then emit .err text
    else if path = "/dev/stdout" ∨ path = "-" then say text
    else if path ≠ "/dev/null" then
      let bytes := ofOctets text
      let result ←
        change
          (fun files path =>
            if arguments.has 'a' then files.append path bytes else files.write path bytes)
          path
      match result with
      | .ok () => pure ()
      | .error e => do
          warn name (plainProblem path e)
          isFine := false
  return statusOf isFine

end MailMerge.Shell.Utility

import MailMerge.Shell.Utility.Change
import MailMerge.Shell.Utility.Listing

/-! Utilities that compare files byte by byte or line by line. -/

namespace MailMerge.Shell.Utility

open Work Files

/-- Reports that a comparison is not called as it should be, and stops. -/
def refuseComparison {α : Type} (name problem : String) : Work α := do
  warn name problem
  fail 2 name s!"Try '{name} --help' for more information."

/-! ### Byte by byte -/

/-- The places where two texts differ, each with the lines in front and both bytes. -/
def differences : List Char → List Char → Nat → Nat → List (Nat × Nat × Char × Char)
  | [], _, _, _ | _, [], _, _ => []
  | x :: xs, y :: ys, bytes, lines =>
      let rest := differences xs ys (bytes + 1) (if x = newline then lines + 1 else lines)
      if x = y then rest else (bytes, lines, x, y) :: rest

/-- The first place where two texts differ. -/
def firstDifference : List Char → List Char → Nat → Nat → Option (Nat × Nat × Char × Char)
  | [], _, _, _ | _, [], _, _ => none
  | x :: xs, y :: ys, bytes, lines =>
      if x = y then firstDifference xs ys (bytes + 1) (if x = newline then lines + 1 else lines)
      else some (bytes, lines, x, y)

/-- A byte by its octal digits. -/
def octalByte (c : Char) : List Char :=
  padLeft 3 (Nat.toDigits 8 c.toNat)

/-- Reads how much of both texts is skipped. -/
def skipsOf (arguments : Arguments) (operands : List String) : Work (Nat × Nat) := do
  let refuse {α : Type} (text : String) : Work α :=
    refuseComparison "cmp" s!"invalid --ignore-initial value {marked text}"
  let number (text : String) : Work Nat :=
    match countOf? text with
    | some count => return count
    | none => refuse text
  let given ←
    match arguments.value? 'i' with
    | none => pure (0, 0)
    | some text =>
        match text.splitOn ":" with
        | [first, second] => do
            match countOf? first, countOf? second with
            | some first, some second => pure (first, second)
            | none, _ => refuse text
            | some _, none => refuse second
        | _ => do
            let both ← number text
            pure (both, both)
  match operands with
  | [] => return given
  | [first] => return (max given.1 (← number first), given.2)
  | first :: second :: _ => return (max given.1 (← number first), max given.2 (← number second))

def compareFiles (words : List String) : Work Nat := do
  let name := "cmp"
  let switches :=
    Switches.of "bls" "in"
      [
        ("silent", 's'), ("quiet", 's'), ("verbose", 'l'), ("print-bytes", 'b'),
        ("bytes", 'n'), ("ignore-initial", 'i')
      ]
  let arguments ←
    match switches.read words with
    | .ok arguments => pure arguments
    | .error problem => refuseComparison name problem
  if arguments.has 'l' ∧ arguments.has 's' then
    refuseComparison name "options -l and -s are incompatible"
  match arguments.operands with
  | [] => refuseComparison name "missing operand after 'cmp'"
  | first :: rest => do
      let second := rest.headD "-"
      let most ←
        match arguments.value? 'n' with
        | none => pure none
        | some text =>
            match countOf? text with
            | some most => pure (some most)
            | none => refuseComparison name s!"invalid --bytes value {marked text}"
      let (skipped, skippedToo) ← skipsOf arguments (rest.drop 1)
      match rest.drop 3 with
      | extra :: _ => refuseComparison name s!"extra operand {marked extra}"
      | [] => pure ()
      let read (path : String) : Work (List Char) := do
        match ← content path with
        | .ok text => return text
        | .error e => do
            if !arguments.has 's' then warn name s!"{path}: {e.reason}"
            quit 2
      let part (text : List Char) : List Char := most.elim text text.take
      let left := part ((← read first).drop skipped)
      let right := part ((← read second).drop skippedToo)
      if most.isSome then modify fun station => { station with isEndless := false }
      let isQuiet := arguments.has 's'
      let found :=
        if arguments.has 'l' then differences left right 0 0
        else (firstDifference left right 0 0).toList
      let width := (toString (max left.length right.length)).length
      for (bytes, lines, x, y) in found do
        if arguments.has 'l' then
          let pair :=
            if arguments.has 'b' then
              octalByte x ++ ' ' :: padRight 4 (visible x) ++ ' ' :: octalByte y
                ++ ' ' :: visible y
            else octalByte x ++ ' ' :: octalByte y
          say (padLeft width (toString (bytes + 1)).toList ++ ' ' :: pair ++ [newline])
        else if !isQuiet then
          let what := if arguments.has 'b' then "byte" else "char"
          say s!"{first} {second} differ: {what} {bytes + 1}, line {lines + 1}".toList
          if arguments.has 'b' then
            let shown (c : Char) : List Char := octalByte c ++ ' ' :: visible c
            say (" is ".toList ++ shown x ++ ' ' :: shown y)
          say [newline]
      if found ≠ [] ∧ !arguments.has 'l' then return 1
      if left.length = right.length then return if found = [] then 0 else 1
      let (short, text) := if left.length < right.length then (first, left) else (second, right)
      if !isQuiet then
        if text.isEmpty then warn name s!"EOF on {short} which is empty"
        else if arguments.has 'l' then warn name s!"EOF on {short} after byte {text.length}"
        else
          let place :=
            if isOpenEnded text then s!"in line {text.count newline + 1}"
            else s!"line {text.count newline}"
          warn name s!"EOF on {short} after byte {text.length}, {place}"
      return 1

/-! ### Line by line -/

/-- How two files are compared, and how their changes are shown. -/
structure Comparison where
  arguments : Arguments
  /-- How many equal lines are shown around a change, if any are asked for. -/
  context : Nat
  /-- The words of the call, to be shown above the changes of each file. -/
  call : String

/-- What counts of a line. -/
def Comparison.essence (comparison : Comparison) (line : List Char) : List Char :=
  let has := comparison.arguments.has
  let line := if has 'i' then line.map Char.toLower else line
  if has 'w' then line.filter fun c => !isSpace c || c = newline
  else if has 'b' then squeeze line
  else if has 'Z' then
    let body := line.filter (· ≠ newline)
    (body.reverse.dropWhile isSpace).reverse ++ line.filter (· = newline)
  else line
where
  /-- A line with its runs of blanks as one, and none at its end. -/
  squeeze (line : List Char) : List Char :=
    let body := line.filter (· ≠ newline)
    let kept := (body.reverse.dropWhile isSpace).reverse
    let (shown, _) :=
      kept.foldl
        (fun (shown, wasBlank) c =>
          if isSpace c then (if wasBlank then shown else ' ' :: shown, true)
          else (c :: shown, false))
        (([] : List Char), false)
    shown.reverse

/-- A line behind a mark; a line without a line feed is followed by a note. -/
def markedLine (mark : String) (line : List Char) : List Char :=
  mark.toList ++ line
    ++ (if line.getLast? = some newline then [] else "\n\\ No newline at end of file\n".toList)

def sliceOf (lines : List (List Char)) (start stop : Nat) : List (List Char) :=
  (lines.take stop).drop start

/-- The numbers of some lines; none are told by the number in front of them. -/
def spanText (separator : String) (start stop : Nat) : String :=
  if stop ≤ start + 1 then toString stop else s!"{start + 1}{separator}{stop}"

/-- The changes one by one. -/
def plainChanges (left right : List (List Char)) (hunks : List Change.Hunk) : List Char :=
  hunks.flatMap fun hunk =>
    let letter := if !hunk.removes then "a" else if !hunk.adds then "d" else "c"
    let title :=
      spanText "," hunk.start hunk.stop ++ letter ++ spanText "," hunk.newStart hunk.newStop
    title.toList ++ [newline]
      ++ (sliceOf left hunk.start hunk.stop).flatMap (markedLine "< ")
      ++ (if hunk.removes && hunk.adds then "---\n".toList else [])
      ++ (sliceOf right hunk.newStart hunk.newStop).flatMap (markedLine "> ")

/-- The changes as commands for an editor, the last one first. -/
def editChanges (right : List (List Char)) (hunks : List Change.Hunk) : List Char :=
  hunks.reverse.flatMap fun hunk =>
    let letter := if !hunk.removes then "a" else if hunk.adds then "c" else "d"
    (spanText "," hunk.start hunk.stop ++ letter).toList ++ [newline]
      ++ (if hunk.adds then
        (sliceOf right hunk.newStart hunk.newStop).flatten ++ ".\n".toList else [])

/-- Changes that stand so close that the lines around them are shown together. -/
def groupChanges (context : Nat) (hunks : List Change.Hunk) : List (List Change.Hunk) :=
  ((hunks.foldl
    (fun groups hunk =>
      match groups with
      | (last :: before) :: rest =>
          if hunk.start ≤ last.stop + 2 * context then (hunk :: last :: before) :: rest
          else [hunk] :: (last :: before) :: rest
      | _ => [hunk] :: groups)
    []).map List.reverse).reverse

/-- The lines from a place on, up to the first change, between the changes, and behind them. -/
def besideChanges (context : Nat) (left : List (List Char)) (group : List Change.Hunk)
    (show1 : List (List Char) → List Char) (show2 : Change.Hunk → List Char) : List Char :=
  let first := (group.head?.map Change.Hunk.start).getD 0
  let (shown, here) :=
    group.foldl
      (fun (shown, here) hunk =>
        (shown ++ show1 (sliceOf left here hunk.start) ++ show2 hunk, hunk.stop))
      (([] : List Char), first - context)
  shown ++ show1 (sliceOf left here (here + context))

/-- The first and the last line that are shown with some changes, on both sides. -/
def reach (context leftSize rightSize : Nat) (group : List Change.Hunk) : Nat × Nat × Nat × Nat :=
  match group.head?, group.getLast? with
  | some first, some last =>
      (first.start - context, min leftSize (last.stop + context), first.newStart - context,
        min rightSize (last.newStop + context))
  | _, _ => (0, 0, 0, 0)

/-- The changes with lines around them, old and new lines together. -/
def unifiedChanges (context : Nat) (left right : List (List Char)) (hunks : List Change.Hunk)
    : List Char :=
  (groupChanges context hunks).flatMap fun group =>
    let (start, stop, newStart, newStop) := reach context left.length right.length group
    let size (start stop : Nat) : String :=
      if stop = start then s!"{stop},0"
      else if stop = start + 1 then toString stop
      else s!"{start + 1},{stop - start}"
    s!"@@ -{size start stop} +{size newStart newStop} @@\n".toList
      ++ besideChanges context left group (·.flatMap (markedLine " ")) fun hunk =>
        (sliceOf left hunk.start hunk.stop).flatMap (markedLine "-")
          ++ (sliceOf right hunk.newStart hunk.newStop).flatMap (markedLine "+")

/-- The changes with lines around them, the old lines in front of the new ones. -/
def contextChanges (context : Nat) (left right : List (List Char)) (hunks : List Change.Hunk)
    : List Char :=
  (groupChanges context hunks).flatMap fun group =>
    let (start, stop, newStart, newStop) := reach context left.length right.length group
    let mark (hunk : Change.Hunk) (alone : String) : String :=
      if hunk.start < hunk.stop ∧ hunk.newStart < hunk.newStop then "! " else alone
    let plain (lines : List (List Char)) : List Char := lines.flatMap (markedLine "  ")
    let turned := group.map fun hunk =>
      { hunk with
        start := hunk.newStart, stop := hunk.newStop, newStart := hunk.start,
        newStop := hunk.stop : Change.Hunk }
    let old :=
      if group.any fun hunk => hunk.start < hunk.stop then
        besideChanges context left group plain fun hunk =>
          (sliceOf left hunk.start hunk.stop).flatMap (markedLine (mark hunk "- "))
      else []
    let new :=
      if group.any fun hunk => hunk.newStart < hunk.newStop then
        besideChanges context right turned plain fun hunk =>
          (sliceOf right hunk.start hunk.stop).flatMap (markedLine (mark hunk "+ "))
      else []
    let oldSpan := spanText "," start stop
    let newSpan := spanText "," newStart newStop
    "***************\n".toList ++ s!"*** {oldSpan} ****\n".toList ++ old
      ++ s!"--- {newSpan} ----\n".toList ++ new

/-- The lines of both sides beside each other. -/
def besideEachOther (width : Nat) (onlyChanges : Bool) (left right : List (List Char))
    (hunks : List Change.Hunk) : List Char :=
  let half := (width + 8 + 3) / 2 / 8 * 8
  let half := if width < 8 + 3 then 0 else half
  let textWidth := if half ≤ 3 then 0 else min (half - 3) (width - half)
  let cut (line : List Char) : List Char := (line.filter (· ≠ newline)).take textWidth
  let row (mark : Char) (x? y? : Option (List Char)) : List Char :=
    let x := cut (x?.getD [])
    let markPlace := (textWidth + half - 1) / 2
    let front :=
      if mark = ' ' then x else x ++ indent 8 width x.length markPlace ++ [mark]
    let here := if mark = ' ' then x.length else markPlace + 1
    match y? with
    | none => front ++ [newline]
    | some y =>
        if y = [newline] then front ++ [newline]
        else front ++ indent 8 width here half ++ cut y ++ [newline]
  let same (lines : List (List Char)) : List Char :=
    if onlyChanges then [] else lines.flatMap fun line => row ' ' (some line) (some line)
  let (shown, here) :=
    hunks.foldl
      (fun (shown, here) hunk =>
        let xs := sliceOf left hunk.start hunk.stop
        let ys := sliceOf right hunk.newStart hunk.newStop
        let rows := (List.range (max xs.length ys.length)).flatMap fun i =>
          match xs[i]?, ys[i]? with
          | some x, some y => row '|' (some x) (some y)
          | some x, none => row '<' (some x) none
          | none, y? => row '>' none y?
        (shown ++ same (sliceOf left here hunk.start) ++ rows, hunk.stop))
      (([] : List Char), 0)
  shown ++ same (left.drop here)

/-- The titles of two files above their changes. -/
def titles (comparison : Comparison) (marks : String × String) (first second : String)
    : Work (List Char) := do
  let labels := comparison.arguments.values '\x01'
  let title (mark path : String) (label? : Option String) : Work String := do
    match label? with
    | some label => return s!"{mark} {label}\n"
    | none => do
        let now := (← get).files.stamp.time
        let time := ((← nodeAt? path).map Inode.time).getD now
        let format :=
          if mark = "***" ∨ marks.1 = "***" then "%a %b %e %H:%M:%S %Y"
          else "%Y-%m-%d %H:%M:%S.%N %z"
        let shown := Calendar.format (Calendar.momentOf time) format
        return s!"{mark} {path}\t{shown}\n"
  return ((← title marks.1 first labels[0]?) ++ (← title marks.2 second labels[1]?)).toList

/-- Compares two texts and shows their changes. Tells whether there are any. -/
def compareTextsOf (comparison : Comparison) (title : String) (first second : String)
    (left right : List Char) : Work Bool := do
  let has := comparison.arguments.has
  let (xs, ys) := (fullLines left, fullLines right)
  let hunks := Change.hunks (xs.map comparison.essence) (ys.map comparison.essence)
  let isBlank (line : List Char) : Bool := line = [newline]
  let hunks :=
    if has 'B' then
      hunks.filter fun hunk =>
        !((sliceOf xs hunk.start hunk.stop).all isBlank
          && (sliceOf ys hunk.newStart hunk.newStop).all isBlank)
    else hunks
  if hunks.isEmpty then
    if has 's' then sayLine s!"Files {first} and {second} are identical"
    if has 'y' then
      let width := ((comparison.arguments.value? 'W').bind natOf?).getD 130
      say (besideEachOther width (has '\x02') xs ys [])
    return false
  else if has 'q' then
    sayLine s!"Files {first} and {second} differ"
    return true
  else if left.contains '\x00' ∨ right.contains '\x00' then
    sayLine s!"Binary files {first} and {second} differ"
    return true
  else do
    if title ≠ "" then sayLine title
    let width := ((comparison.arguments.value? 'W').bind natOf?).getD 130
    if has 'u' ∨ has 'U' then
      say (← titles comparison ("---", "+++") first second)
      say (unifiedChanges comparison.context xs ys hunks)
    else if has 'c' ∨ has 'C' ∨ has 'p' then
      say (← titles comparison ("***", "---") first second)
      say (contextChanges comparison.context xs ys hunks)
    else if has 'e' then say (editChanges ys hunks)
    else if has 'y' then say (besideEachOther width (has '\x02') xs ys hunks)
    else say (plainChanges xs ys hunks)
    return true

/-- Compares two paths: files with each other, directories by their names. Tells the
status.
-/
def comparePaths (comparison : Comparison) (isTop : Bool) : Nat → String → String → Work Nat
  | 0, _, _ => return 2
  | fuel + 1, first, second => do
      let name := "diff"
      let has := comparison.arguments.has
      let isOuter (path : String) : Work Bool :=
        if path = "-" then return false else isDirectory path
      match ← isOuter first, ← isOuter second with
      | true, true => do
          let (xs, ys) := (← namesIn first true, ← namesIn second true)
          let names := (xs ++ ys.filter (!xs.contains ·)).mergeSort fun x y => x ≤ y
          let names := names.filter fun name =>
            !((comparison.arguments.values 'x').any (Wildcard.fits · name))
          let mut status := 0
          for one in names do
            let x := Files.joinPath first one
            let y := Files.joinPath second one
            let outer1 ← isOuter x
            let outer2 ← isOuter y
            if outer1 ∧ outer2 ∧ !has 'r' then
              sayLine s!"Common subdirectories: {x} and {y}"
            else if !xs.contains one ∧ !has 'N' then
              sayLine s!"Only in {second}: {one}"
              status := max status 1
            else if !ys.contains one ∧ !has 'N' then
              sayLine s!"Only in {first}: {one}"
              status := max status 1
            else if xs.contains one ∧ ys.contains one ∧ outer1 ≠ outer2 then
              let kind (path : String) (outer : Bool) : Work String := do
                if outer then return "directory"
                else return ((← entryAt? path).map kindText).getD "regular file"
              sayLine
                s!"File {x} is a {← kind x outer1} while file {y} is a {← kind y outer2}"
              status := max status 1
            else status := max status (← comparePaths comparison false fuel x y)
          return status
      | true, false =>
          comparePaths comparison isTop fuel (Files.joinPath first (baseName second)) second
      | false, true =>
          comparePaths comparison isTop fuel first (Files.joinPath second (baseName first))
      | false, false => do
          let read (path : String) : Work (Option (List Char)) := do
            match ← content path with
            | .ok text => return some text
            | .error e => do
                if has 'N' ∧ e = .notFound then return some []
                warn name s!"{path}: {e.reason}"
                return none
          let left? ← read first
          let right? ← if first = second then pure left? else read second
          match left?, right? with
          | some left, some right => do
              let title :=
                if isTop then "" else s!"{comparison.call} {quotedAsNeeded first} {quotedAsNeeded second}"
              let isChanged ← compareTextsOf comparison title first second left right
              return if isChanged then 1 else 0
          | _, _ => return 2

def showChanges (words : List String) : Work Nat := do
  let name := "diff"
  let switches : Switches :=
    {
      letters :=
        ("abBceEidlnNpPqrsStTuvwyZ\x02\x03\x04\x05".toList.map (·, .alone))
          ++ ("CDFILUWxX\x01".toList.map (·, .value)) ++ [('\x06', .optional)]
      names :=
        [
          ("brief", 'q'), ("report-identical-files", 's'), ("ignore-case", 'i'),
          ("ignore-all-space", 'w'), ("ignore-space-change", 'b'), ("ignore-blank-lines", 'B'),
          ("ignore-trailing-space", 'Z'), ("recursive", 'r'), ("new-file", 'N'),
          ("text", 'a'), ("label", '\x01'), ("side-by-side", 'y'), ("width", 'W'),
          ("suppress-common-lines", '\x02'), ("exclude", 'x'), ("ed", 'e'), ("normal", '\x03'),
          ("unified", '\x04'), ("context", '\x05'), ("color", '\x06')
        ]
      permutes := true
    }
  let arguments ←
    match switches.read words with
    | .ok arguments => pure arguments
    | .error problem => refuseComparison name problem
  let given := arguments.value? 'U' <|> arguments.value? 'C'
  let arguments : Arguments :=
    { arguments with
      found := arguments.found.map fun (letter, value) =>
        match letter with
        | '\x04' => ('u', value)
        | '\x05' => ('c', value)
        | 'L' => ('\x01', value)
        | letter => (letter, value) }
  let context ←
    match given with
    | none => pure 3
    | some text =>
        match natOf? text with
        | some number => pure number
        | none => refuseComparison name s!"invalid context length {marked text}"
  let call := " ".intercalate (name :: (words.filter (·.startsWith "-")).map quotedAsNeeded)
  match arguments.operands with
  | [] => refuseComparison name s!"missing operand after {marked (words.getLast?.getD name)}"
  | [_] => refuseComparison name s!"missing operand after {marked (words.getLast?.getD name)}"
  | [first, second] => comparePaths { arguments, context, call } true maxLevels first second
  | _ => refuseComparison name ("extra operand " ++ marked (arguments.operands.getD 2 ""))

end MailMerge.Shell.Utility

import MailMerge.Shell.Utility.Directory
import MailMerge.Shell.Utility.Version
import MailMerge.Shell.Wildcard

/-! Utilities that show what stands in directories, and what is known of entries. -/

namespace MailMerge.Shell.Utility

open Work Files

/-! ### What is known of an entry -/

/-- An entry as it is shown. -/
structure Listed where
  path : String
  /-- What it is called in the list. -/
  label : String
  entry : Entry
  /-- What a link leads to. -/
  behind : Option Entry
  route : Route
  mode : Nat
  time : Int
  names : Nat
  number : Nat

/-- The permissions and the time of what stands at a route; the root has usual ones. -/
def nodeOf (files : Tree) (route : Route) (entry : Entry) : Inode :=
  (files.nodeAt? route).getD { entry, mode := 0o755, time := Tree.firstTime }

/-- What is known of what a path names, or of what it leads to. -/
def listed (follows : Bool) (path label : String) : Work (Except FileError Listed) := do
  let files := (← get).files
  let located ← locate path
  let place := if follows then files.resolve located else files.resolveName located
  match place, files.entryAt place with
  | .ok route, .ok entry => do
      let node := nodeOf files route entry
      return .ok
        {
          path, label, entry, route
          behind := (files.stat located).toOption
          mode := node.mode
          time := node.time
          names := files.countNames route
          number := (files.places.lookup route).elim 2 (· + 1000)
        }
  | .error e, _ | _, .error e => return .error e

namespace Listed

/-- How many bytes an entry takes; a directory takes a block. -/
def size (listed : Listed) : Nat :=
  match listed.entry with
  | .file content => content.length
  | .directory => 4096
  | .link target => target.utf8ByteSize

/-- How many units of 512 bytes an entry takes on the disk. -/
def blocks (listed : Listed) : Nat :=
  match listed.entry with
  | .file content => (content.length + 4095) / 4096 * 8
  | .directory => 8
  | .link _ => 0

/-- The mark that tells what kind of entry something is. -/
def mark (showsRunning : Bool) (listed : Listed) : String :=
  match listed.entry with
  | .directory => "/"
  | .link _ => "@"
  | .file _ => if showsRunning ∧ listed.mode &&& 0o111 ≠ 0 then "*" else ""

def isOuter (listed : Listed) : Bool :=
  listed.entry = .directory

/-- What kind of entry something is, and its permissions, in letters. -/
def modeText (listed : Listed) : String :=
  String.ofList [Permission.kindLetter listed.entry] ++ Permission.shown listed.mode

end Listed

/-- A size in the largest unit that it reaches, rounded up. -/
def sizeText (base size : Nat) : String :=
  let units := if base = 1000 then "kMGTPE".toList else "KMGTPE".toList
  let rec go (size scale : Nat) : List Char → String
    | [] => toString size
    | unit :: units =>
        let scale := scale * base
        let tenths := (size * 10 + scale - 1) / scale
        if tenths < 100 then
          s!"{tenths / 10}.{tenths % 10}" ++ String.ofList [unit]
        else
          let whole := (size + scale - 1) / scale
          if whole < base ∨ units = [] then toString whole ++ String.ofList [unit]
          else go size scale units
  if size < base then toString size else go size 1 units

/-! ### Lists -/

/-- How the parts of a list are set out. -/
inductive Layout where
  | lines
  | details
  | columns
  | rows
  | commas
  deriving DecidableEq

def listSwitches : Switches where
  letters :=
    ("1aAbBcCdfFgGhHiklLmnNoprRsStuUvxXqQZ\x03\x04\x05\x06\x0e".toList.map (·, .alone))
      ++ ("ITw\x0f\x10\x11\x12\x13".toList.map (·, .value))
      ++ [('\x01', .optional), ('\x02', .optional)]
  names :=
    [
      ("all", 'a'), ("almost-all", 'A'), ("directory", 'd'), ("reverse", 'r'),
      ("recursive", 'R'), ("classify", '\x02'), ("color", '\x01'), ("human-readable", 'h'),
      ("inode", 'i'), ("size", 's'), ("dereference", 'L'), ("literal", 'N'),
      ("quote-name", 'Q'), ("escape", 'b'), ("hide-control-chars", 'q'), ("no-group", 'G'),
      ("numeric-uid-gid", 'n'), ("ignore", 'I'), ("ignore-backups", 'B'), ("hide", '\x0f'),
      ("sort", '\x10'), ("format", '\x11'), ("indicator-style", '\x12'),
      ("time-style", '\x13'), ("group-directories-first", '\x03'), ("full-time", '\x04'),
      ("file-type", '\x05'), ("zero", '\x06'), ("kibibytes", 'k'), ("width", 'w'),
      ("tabsize", 'T'), ("si", '\x0e')
    ]
  permutes := true

/-- The last of some switches that was given. -/
def lastOf? (arguments : Arguments) (letters : List Char) : Option Char :=
  ((arguments.found.map Prod.fst).filter letters.contains).getLast?

/-- The order of a list. -/
def orderOf (arguments : Arguments) : List Listed → List Listed :=
  let letter :=
    match arguments.value? '\x10' with
    | some "none" => 'U'
    | some "time" => 't'
    | some "size" => 'S'
    | some "extension" => 'X'
    | some "version" => 'v'
    | _ => (lastOf? arguments "fUtSXv".toList).getD 'a'
  let byName (x y : Listed) : Ordering := compareTexts x.label.toList y.label.toList
  let extension (x : Listed) : List Char :=
    let cs := x.label.toList
    if cs.contains '.' then cs.reverse.takeWhile (· ≠ '.') |>.reverse else []
  let order (x y : Listed) : Ordering :=
    match letter with
    | 't' => (compare y.time x.time).then (byName x y)
    | 'S' => (compare y.size x.size).then (byName x y)
    | 'X' => (compareTexts (extension x) (extension y)).then (byName x y)
    | 'v' => (Version.compareNames x.label.toList y.label.toList).then (byName x y)
    | _ => byName x y
  fun list =>
    let sorted :=
      if letter = 'f' ∨ letter = 'U' then list
      else
        let found := list.mergeSort fun x y => order x y != .gt
        if arguments.has 'r' then found.reverse else found
    if arguments.has '\x03' then
      (sorted.filter Listed.isOuter) ++ sorted.filter (!·.isOuter)
    else sorted

/-- A name between double quotes, or with escapes. -/
def escapedName (quotes : Bool) (name : String) : String :=
  let shown (c : Char) : List Char :=
    if c = '\\' ∨ (quotes ∧ c = '\x22') then ['\\', c]
    else if c = ' ' ∧ !quotes then ['\\', c]
    else if isPrintable c then [c]
    else shownEscape c
  let text := String.ofList (name.toList.flatMap shown)
  if quotes then "\x22" ++ text ++ "\x22" else text

/-- A name in the style that is asked for. -/
def styledName (arguments : Arguments) (name : String) : String :=
  match lastOf? arguments "bNQq".toList with
  | some 'b' => escapedName false name
  | some 'Q' => escapedName true name
  | some 'q' => name.map fun c => if isPrintable c then c else '?'
  | _ => name

/-- The mark behind a name, if marks are asked for. -/
def markOf (arguments : Arguments) (listed : Listed) : String :=
  match lastOf? arguments "Fp\x02\x05".toList, arguments.value? '\x12' with
  | _, some "slash" => if listed.isOuter then "/" else ""
  | _, some "file-type" => listed.mark false
  | _, some "classify" => listed.mark true
  | some 'p', _ => if listed.isOuter then "/" else ""
  | some '\x05', _ => listed.mark false
  | some 'F', _ => listed.mark true
  | some '\x02', _ =>
      let word := (arguments.value? '\x02').getD ""
      if word = "" ∨ word = "always" then listed.mark true else ""
  | _, _ => ""

/-- A size in the units that are asked for. -/
def sizeIn (arguments : Arguments) (size : Nat) : String :=
  if arguments.has 'h' then sizeText 1024 size
  else if arguments.has '\x0e' then sizeText 1000 size
  else toString size

/-- How many units an entry takes on the disk. -/
def blocksIn (arguments : Arguments) (blocks : Nat) : String :=
  if arguments.has 'h' ∨ arguments.has '\x0e' then sizeIn arguments (blocks * 512)
  else toString ((blocks + 1) / 2)

/-- A time as lists show it: with the year where it lies more than half a year back. -/
def timeText (arguments : Arguments) (now time : Int) : String :=
  let moment := Calendar.momentOf time
  let style := if arguments.has '\x04' then some "full-iso" else arguments.value? '\x13'
  let isRecent : Bool := now - 15778476 * Calendar.secondSpan < time && time ≤ now
  let format :=
    match style with
    | some "full-iso" => "%Y-%m-%d %H:%M:%S.%N %z"
    | some "long-iso" => "%Y-%m-%d %H:%M"
    | some "iso" => if isRecent then "%m-%d %H:%M" else "%Y-%m-%d "
    | some text =>
        if text.startsWith "+" then (text.drop 1).toString
        else if isRecent then "%b %e %H:%M"
        else "%b %e  %Y"
    | none => if isRecent then "%b %e %H:%M" else "%b %e  %Y"
  Calendar.format moment format

/-- The columns that a text fills up to a place. -/
def indent (tab : Nat) : Nat → Nat → Nat → List Char
  | 0, _, _ => []
  | fuel + 1, here, there =>
      if there ≤ here then []
      else if tab ≠ 0 ∧ (here + 1) / tab < there / tab then
        '\t' :: indent tab fuel (here + tab - here % tab) there
      else ' ' :: indent tab fuel (here + 1) there

/-- The widths of columns in which texts fit, for the most columns with which they do. -/
def columnWidths (width : Nat) (downwards : Bool) (sizes : List Nat) : List Nat :=
  let count := sizes.length
  let widthsFor (columns : Nat) : List Nat :=
    let rows := (count + columns - 1) / columns
    (List.range columns).map fun column =>
      let inside := sizes.zipIdx.filterMap fun (size, i) =>
        let place := if downwards then i / rows else i % columns
        if place = column then some (size + if column + 1 = columns then 0 else 2) else none
      inside.foldl max 3
  let most := max 1 (min count (width / 3))
  (((List.range most).reverse.map (· + 1)).findSome? fun columns =>
    let widths := widthsFor columns
    if widths.foldl (· + ·) 0 < width then some widths else none).getD [0]

/-- Sets texts out in columns. -/
def inColumns (width tab : Nat) (downwards : Bool) (texts : List String) : List Char :=
  let widths := columnWidths width downwards (texts.map String.length)
  let columns := widths.length
  let rows := (texts.length + columns - 1) / columns
  let items := texts.toArray
  (List.range rows).flatMap fun row =>
    let places := (List.range columns).filterMap fun column =>
      let i := if downwards then column * rows + row else row * columns + column
      items[i]?.map (·, column)
    let (line, _, _) :=
      places.foldl
        (fun (line, here, start) (text, column) =>
          let gap := indent tab width here start
          let size := text.length
          (line ++ gap ++ text.toList, start + size, start + widths.getD column 0))
        (([] : List Char), 0, 0)
    line ++ [newline]

/-- Sets texts out one behind the other, with commas between them. -/
def withCommas (width : Nat) (texts : List String) : List Char :=
  let (shown, _) :=
    texts.zipIdx.foldl
      (fun (shown, here) (text, i) =>
        let size := text.length
        if i = 0 then (shown ++ text.toList, size)
        else if here + 2 + size < width then
          (shown ++ ", ".toList ++ text.toList, here + 2 + size)
        else (shown ++ ",\n".toList ++ text.toList, size))
      (([] : List Char), 0)
  if texts.isEmpty then [] else shown ++ [newline]

/-- Texts in a column of their own. -/
def aligned (atLeft : Bool) (texts : List String) : List String :=
  let width := (texts.map String.length).foldl max 0
  texts.map fun text =>
    String.ofList ((if atLeft then padRight else padLeft) width text.toList)

/-- The lines of a list with all that is known. -/
def detailLines (arguments : Arguments) (now : Int) (list : List Listed) : List String :=
  let isNumbered := arguments.has 'n'
  let who := if isNumbered then "0" else "root"
  let column (atLeft : Bool) (text : Listed → String) : List String :=
    aligned atLeft (list.map text)
  let columns : List (List String) :=
    (if arguments.has 'i' then [column false fun one => toString one.number] else [])
      ++ (if arguments.has 's' then [column false fun one => blocksIn arguments one.blocks] else [])
      ++ [list.map Listed.modeText, column false fun one => toString one.names]
      ++ (if arguments.has 'g' then [] else [list.map fun _ => who])
      ++ (if arguments.has 'G' ∨ arguments.has 'o' then [] else [list.map fun _ => who])
      ++ [column false fun one => sizeIn arguments one.size]
      ++ [column false fun one => timeText arguments now one.time]
  list.zipIdx.map fun (one, i) =>
    let parts := columns.map fun column => column.getD i ""
    let label := styledName arguments one.label
    let tail :=
      match one.entry with
      | .link target =>
          let leads := match one.behind with
            | some .directory => if (markOf arguments one) = "" then "" else "/"
            | _ => ""
          s!"{label} -> {styledName arguments (spell target)}{leads}"
      | _ => label ++ markOf arguments one
    " ".intercalate (parts ++ [tail])

/-- How a list is to be set out. -/
def layoutOf (arguments : Arguments) : Layout :=
  match arguments.value? '\x11' with
  | some "long" | some "verbose" => .details
  | some "commas" => .commas
  | some "across" | some "horizontal" => .rows
  | some "vertical" => .columns
  | some "single-column" => .lines
  | _ =>
      match lastOf? arguments "1lgonCxm\x04\x06".toList with
      | some 'C' => .columns
      | some 'x' => .rows
      | some 'm' => .commas
      | some '1' => if "lgon\x04".toList.any arguments.has then .details else .lines
      | some '\x06' | none => .lines
      | some _ => .details

/-- Shows a list. -/
def showList (arguments : Arguments) (list : List Listed) : Work Unit := do
  let now := (← get).files.stamp.time
  let width := ((arguments.value? 'w').bind natOf?).getD 80
  let tab := ((arguments.value? 'T').bind natOf?).getD 8
  let layout := layoutOf arguments
  if layout = .details then
    for line in detailLines arguments now list do sayLine line
  else
    let leads : List (List String) :=
      (if arguments.has 'i' then
        [aligned false (list.map fun one => toString one.number)] else [])
        ++ (if arguments.has 's' then
          [aligned false (list.map fun one => blocksIn arguments one.blocks)] else [])
    let texts := list.zipIdx.map fun (one, i) =>
      let front := leads.map fun column => column.getD i "" ++ " "
      String.join front ++ styledName arguments one.label ++ markOf arguments one
    match layout with
    | .columns => say (inColumns width tab true texts)
    | .rows => say (inColumns width tab false texts)
    | .commas => say (withCommas width texts)
    | _ =>
        let ending := if arguments.has '\x06' then '\x00' else newline
        for text in texts do say (text.toList ++ [ending])

/-- The entries of a directory that are to be shown. -/
def shownIn (arguments : Arguments) (path : String) : Work (List Listed) := do
  let showsHidden := "aAf".toList.any arguments.has
  let names ← namesIn path showsHidden
  let names := names.filter fun name =>
    !((arguments.values 'I').any (Wildcard.fits · name))
      && !(arguments.has 'B' && name.endsWith "~")
      && (showsHidden || !((arguments.values '\x0f').any (Wildcard.fits · name)))
  let selves := if arguments.has 'a' ∨ arguments.has 'f' then [".", ".."] else []
  let found ← (selves ++ names).filterMapM fun name => do
    return (← listed (arguments.has 'L') (Files.joinPath path name) name).toOption
  return orderOf arguments found

/-- Shows a directory and, if asked for, those below it. -/
def showDirectory (arguments : Arguments) (isTitled : Bool) : Nat → Bool → String → Work Unit
  | 0, _, _ => pure ()
  | fuel + 1, isFirst, path => do
      if !isFirst then sayLine ""
      if isTitled then sayLine (styledName arguments path ++ ":")
      let list ← shownIn arguments path
      if layoutOf arguments = .details ∨ arguments.has 's' then
        let blocks := (list.map Listed.blocks).foldl (· + ·) 0
        sayLine s!"total {blocksIn arguments blocks}"
      showList arguments list
      if arguments.has 'R' then
        for one in list do
          if one.isOuter ∧ one.label ≠ "." ∧ one.label ≠ ".." then
            showDirectory arguments isTitled fuel false (Files.joinPath path one.label)

/-- The words that a switch of a list may be followed by. -/
def checkWord (name option : String) (words : List String) (given : Option String)
    : Work Unit := do
  match given with
  | some word =>
      if !words.any (·.startsWith word) then
        warn name s!"invalid argument {marked word} for {marked option}"
        emit .err "Valid arguments are:\n".toList
        for one in words do emit .err s!"  - {marked one}\n".toList
        emit .err s!"Try '{name} --help' for more information.\n".toList
        quit 2
  | none => pure ()

def listEntries (words : List String) : Work Nat := do
  let name := "ls"
  let arguments ← arguments listSwitches 2 name words
  checkWord name "--sort" ["none", "time", "size", "extension", "version", "width"]
    (arguments.value? '\x10')
  let operands := if arguments.operands.isEmpty then ["."] else arguments.operands
  let mut isFine := true
  let mut files : List Listed := []
  let mut directories : List Listed := []
  let marks : Bool := arguments.has 'F' || arguments.has '\x02' || arguments.has '\x05'
  for path in operands do
    let isLong : Bool := layoutOf arguments = .details
    let follows := arguments.has 'L' || arguments.has 'H'
    let keeps : Bool := !follows && (arguments.has 'd' || isLong || marks)
    let found ← do
      match ← listed (!keeps) path path with
      | .ok found =>
          if found.isOuter ∨ follows then pure (Except.ok found) else listed false path path
      | .error e =>
          if follows then pure (.error e)
          else
            match ← listed false path path with
            | .ok found => pure (.ok found)
            | .error _ => pure (.error e)
    match found with
    | .error e => do
        warn name s!"cannot access {quoted path}: {e.reason}"
        isFine := false
    | .ok found =>
        if found.isOuter ∧ !arguments.has 'd' then directories := directories ++ [found]
        else files := files ++ [found]
  showList arguments (orderOf arguments files)
  let isTitled := operands.length > 1 || arguments.has 'R'
  for (one, i) in (orderOf arguments directories).zipIdx do
    showDirectory arguments isTitled maxLevels (i = 0 && files.isEmpty) one.path
  return if isFine then 0 else 2

/-! ### Single entries -/

/-- A part of what is known of an entry, by the letter that names it. -/
def detail (one : Listed) (letter : Char) : String :=
  let moment := Calendar.momentOf one.time
  match letter with
  | 'a' => Permission.octal 1 one.mode
  | 'A' => one.modeText
  | 'b' => toString one.blocks
  | 'B' => "512"
  | 'd' => "2049"
  | 'D' => "801"
  | 'C' => "?"
  | 'f' =>
      String.ofList (Nat.toDigits 16 (Permission.kindBits one.entry ||| one.mode))
  | 'F' => kindText one.entry
  | 'g' | 'u' => "0"
  | 'G' | 'U' => "root"
  | 'h' => toString one.names
  | 'i' => toString one.number
  | 'm' => "/"
  | 'n' => one.path
  | 'N' =>
      match one.entry with
      | .link target => s!"{quoted one.path} -> {quoted (spell target)}"
      | _ => quoted one.path
  | 'o' => "4096"
  | 's' => toString one.size
  | 't' | 'T' => "0"
  | 'w' => "-"
  | 'W' => "0"
  | 'x' | 'y' | 'z' => Calendar.format moment "%Y-%m-%d %H:%M:%S.%N %z"
  | 'X' | 'Y' | 'Z' => Calendar.format moment "%s"
  | _ => "?"

/-- A format filled in with what is known of an entry; the number bounds how long it is. -/
def fillDetails (one : Listed) : Nat → List Char → List Char
  | 0, _ | _, [] => []
  | fuel + 1, '%' :: cs =>
      let flags := cs.takeWhile "#-+.0123456789 \x27".toList.contains
      match cs.drop flags.length with
      | [] => '%' :: flags
      | '%' :: rest => '%' :: fillDetails one fuel rest
      | letter :: rest =>
          let text := (detail one letter).toList
          let width := (natOf? (String.ofList (flags.dropWhile (!·.isDigit)))).getD 0
          let isLeft : Bool := flags.contains '-'
          let isZero : Bool := (flags.dropWhile (!·.isDigit)).head? = some '0'
          let isHex : Bool := flags.contains '#' && letter = 'a'
          let text := if isHex then '0' :: text else text
          let shown :=
            if isLeft then padRight width text
            else if isZero then List.replicate (width - text.length) '0' ++ text
            else padLeft width text
          shown ++ fillDetails one fuel rest
  | fuel + 1, c :: cs => c :: fillDetails one fuel cs

/-- All that is known of an entry, line by line. -/
def wholeDetails (one : Listed) : String :=
  let moment := Calendar.momentOf one.time
  let time := Calendar.format moment "%Y-%m-%d %H:%M:%S.%N %z"
  let name :=
    match one.entry with
    | .link target => s!"{one.path} -> {spell target}"
    | _ => one.path
  let right (size : Nat) (text : String) : String := String.ofList (padRight size text.toList)
  "\n".intercalate
    [
      s!"  File: {name}",
      s!"  Size: {right 10 (toString one.size)}\tBlocks: {right 10 (toString one.blocks)} IO Block: 4096   {kindText one.entry}",
      s!"Device: 8,1\tInode: {right 11 (toString one.number)} Links: {one.names}",
      s!"Access: ({Permission.octal 4 one.mode}/{one.modeText})  Uid: (    0/    root)   Gid: (    0/    root)",
      s!"Access: {time}", s!"Modify: {time}", s!"Change: {time}", " Birth: -\n"
    ]

def showDetails (words : List String) : Work Nat := do
  let name := "stat"
  let switches :=
    Switches.of "Lft" "c\x01\x02"
      [
        ("dereference", 'L'), ("file-system", 'f'), ("format", 'c'), ("printf", '\x01'),
        ("terse", 't'), ("cached", '\x02')
      ]
  let arguments ← arguments switches 1 name words
  if arguments.operands.isEmpty then misuse 1 name "missing operand"
  let mut isFine := true
  for path in arguments.operands do
    match ← listed (arguments.has 'L') path path with
    | .error e => do
        warn name s!"cannot statx {quoted path}: {e.reason}"
        isFine := false
    | .ok one =>
        match arguments.value? 'c', arguments.value? '\x01' with
        | _, some format =>
            let text := unescape format.toList
            say (fillDetails one (text.length + 1) text)
        | some format, none =>
            say (fillDetails one (format.length + 1) format.toList ++ [newline])
        | none, none => say (wholeDetails one).toList
  return statusOf isFine
where
  /-- A format with its escapes read. -/
  unescape : List Char → List Char
    | '\\' :: c :: cs =>
        let found : Option Char :=
          [
            ('n', '\n'), ('t', '\t'), ('r', '\r'), ('a', '\x07'), ('b', '\x08'), ('f', '\x0c'),
            ('v', '\x0b'), ('\\', '\\'), ('\x22', '\x22'), ('e', '\x1b'), ('0', '\x00')
          ].lookup c
        match found with
        | some shown => shown :: unescape cs
        | none => '\\' :: c :: unescape cs
    | c :: cs => c :: unescape cs
    | [] => []

end MailMerge.Shell.Utility

import MailMerge.Files.Permission
import MailMerge.Shell.Calendar.Reading
import MailMerge.Shell.Utility.Place

/-! Utilities that make and remove entries, or change their times, permissions and sizes. -/

namespace MailMerge.Shell.Utility

open Work Files

/-! ### Making -/

/-- Makes the directories on a path that are not there, the last one too. Tells which ones
were made.
-/
def makePath (path : String) : Work (Except FileError (List String)) := do
  let names := (trimSlashes path).splitOn "/"
  let mut here := ""
  let mut made : List String := []
  for (name, i) in names.zipIdx do
    here := if i = 0 then name else here ++ "/" ++ name
    if here ≠ "" ∧ !(← isDirectory here) then
      let isLast : Bool := i + 1 = names.length
      match ← change Tree.makeDirectory here with
      | .ok () => made := made ++ [if isLast then path else here]
      | .error .alreadyThere => return .error (if isLast then .alreadyThere else .notDirectory)
      | .error e => return .error e
  return if path = "" then .error .notFound else .ok made

/-- Gives permissions to what stands at a path. -/
def setModeAt (setting : Permission.Setting) (path : String) : Work Unit := do
  match ← routeOf? path with
  | .ok route =>
      let isInside ← isDirectory path
      setFiles fun files =>
        match files.nodeAt? route with
        | some node =>
            files.setMode route (setting.apply isInside files.stamp.mask node.mode)
        | none => files
  | .error _ => pure ()

def makeDirectories (words : List String) : Work Nat := do
  let name := "mkdir"
  let switches := Switches.of "pvZ" "m" [("parents", 'p'), ("verbose", 'v'), ("mode", 'm')]
  let arguments ← arguments switches 1 name words
  if arguments.operands.isEmpty then misuse 1 name "missing operand"
  let setting? ←
    match arguments.value? 'm' with
    | none => pure none
    | some text =>
        match Permission.read? text with
        | some setting => pure (some setting)
        | none => fail 1 name s!"invalid mode {marked text}"
  let mut isFine := true
  for path in arguments.operands do
    let result ←
      if arguments.has 'p' then makePath path
      else pure ((← change Tree.makeDirectory (trimSlashes path)).map fun _ => [path])
    match result with
    | .ok made => do
        if let (some setting, some last) := (setting?, made.getLast?) then
          setModeAt setting last
        if arguments.has 'v' then
          for one in made do sayLine s!"{name}: created directory {quoted one}"
    | .error e => do
        let shown :=
          if e = .notDirectory ∧ arguments.has 'p' then directoryName path else path
        warn name s!"cannot create directory {marked shown}: {e.reason}"
        isFine := false
  return statusOf isFine

/-! ### Removing -/

/-- A path and the paths of the directories above it. -/
def pathsAbove (path : String) : List String :=
  let names := (trimSlashes path).splitOn "/"
  (List.range names.length).map fun i => "/".intercalate (names.take (names.length - i))

def removeDirectories (words : List String) : Work Nat := do
  let name := "rmdir"
  let switches :=
    Switches.of "pv\x01" "" [("parents", 'p'), ("verbose", 'v'), ("ignore-fail-on-non-empty", '\x01')]
  let arguments ← arguments switches 1 name words
  if arguments.operands.isEmpty then misuse 1 name "missing operand"
  let mut isFine := true
  for path in arguments.operands do
    let paths := if arguments.has 'p' then pathsAbove path else [path]
    let mut goesOn := true
    for (one, i) in paths.zipIdx do
      if goesOn then
        if arguments.has 'v' then sayLine s!"{name}: removing directory, {quoted one}"
        match ← change Tree.removeDirectory (trimSlashes one) with
        | .ok () => pure ()
        | .error e => do
            goesOn := false
            if !(e = .notEmpty ∧ arguments.has '\x01') then
              let what := if i = 0 then "" else "directory "
              warn name s!"failed to remove {what}{quoted one}: {e.reason}"
              isFine := false
  return statusOf isFine

/-- The entries below a directory, what stands in directories before them. -/
def entriesWithin : Nat → String → Work (List (String × Bool))
  | 0, _ => return []
  | fuel + 1, path => do
      let mut found : List (String × Bool) := []
      for name in ← namesIn path true do
        let inside := Files.joinPath path name
        if (← namedAt? inside) = some .directory then
          found := found ++ (← entriesWithin fuel inside) ++ [(inside, true)]
        else found := found ++ [(inside, false)]
      return found

/-- How deep directories are looked into. -/
def maxLevels : Nat := 512

/-- Asks whether to go on, and reads the answer. -/
def confirm (question : String) : Work Bool := do
  emit .err question.toList
  let input := (← get).input
  let line := input.takeWhile (· ≠ newline)
  modify fun station => { station with input := input.drop (line.length + 1) }
  return line.head?.any fun c => c = 'y' || c = 'Y'

/-- What kind of entry something is, in words. -/
def kindText : Entry → String
  | .file [] => "regular empty file"
  | .file _ => "regular file"
  | .directory => "directory"
  | .link _ => "symbolic link"

def remove (words : List String) : Work Nat := do
  let name := "rm"
  let switches :=
    Switches.of "dfiIrRv\x01\x02" ""
      [
        ("force", 'f'), ("recursive", 'r'), ("dir", 'd'), ("verbose", 'v'),
        ("interactive", 'i'), ("one-file-system", '\x01'), ("preserve-root", '\x01'),
        ("no-preserve-root", '\x02')
      ]
  let arguments ← arguments switches 1 name words
  let isForced := arguments.has 'f'
  let isDeep := arguments.has 'r' || arguments.has 'R'
  let asks : Bool :=
    ((arguments.found.map Prod.fst).filter fun letter => letter = 'i' || letter = 'f').getLast?
      = some 'i'
  if arguments.operands.isEmpty ∧ !isForced then misuse 1 name "missing operand"
  let mut isFine := true
  for path in arguments.operands do
    let base := baseName path
    if isDeep ∧ trimSlashes path = "/" then
      warn name "it is dangerous to operate recursively on '/'"
      warn name "use --no-preserve-root to override this failsafe"
      isFine := false
    else if isDeep ∧ (base = "." ∨ base = "..") then
      warn name s!"refusing to remove '.' or '..' directory: skipping {quoted path}"
      isFine := false
    else
      let found? ← namedAt? path
      let isInside : Bool := found? = some .directory
      let kind := (found?.map kindText).getD ""
      let question := s!"{name}: remove {kind} {quoted path}? "
      let isMeant ← if asks ∧ found?.isSome then confirm question else pure true
      if isMeant then
        let inside ← if isDeep ∧ isInside then entriesWithin maxLevels path else pure []
        let result ←
          if isDeep then change Tree.remove path
          else if arguments.has 'd' ∧ isInside then change Tree.removeDirectory path
          else change Tree.removeFile path
        match result with
        | .ok () => do
            if arguments.has 'v' then
              for (one, isOuter) in inside ++ [(path, isInside)] do
                sayLine <|
                  if isOuter then s!"removed directory {quoted one}" else s!"removed {quoted one}"
        | .error e =>
            if !(isForced ∧ (e = .notFound ∨ e = .notDirectory)) then
              warn name s!"cannot remove {quoted path}: {e.reason}"
              isFine := false
  return statusOf isFine

/-! ### Times -/

/-- The time that a row of digits stands for: the month, the day, the hour and the minute,
with a year in front and seconds behind a point at will.
-/
def stampOf? (now : Int) (text : String) : Option Int := do
  let (digits, seconds) ←
    match text.splitOn "." with
    | [digits] => some (digits, "00")
    | [digits, seconds] => if seconds.length = 2 then some (digits, seconds) else none
    | _ => none
  let two (i : Nat) : Option Nat :=
    natOf? (String.ofList ((digits.toList.drop i).take 2))
  let extra := digits.length - 8
  if digits.length < 8 ∨ 12 < digits.length ∨ extra % 2 = 1 then none
  let year : Int ←
    match extra with
    | 0 => some (Calendar.momentOf now).year
    | 2 => (two 0).map fun year => if year < 69 then 2000 + year else 1900 + year
    | _ => do return (← two 0) * 100 + (← two 2)
  let month ← two extra
  let day ← two (extra + 2)
  let time ← Calendar.read? now s!"{year}-{month}-{day}"
  let hour ← two (extra + 4)
  let minute ← two (extra + 6)
  let second ← natOf? seconds
  if 23 < hour ∨ 59 < minute ∨ 60 < second then none
  return time + (hour * 3600 + minute * 60 + second : Nat) * Calendar.secondSpan

def touch (words : List String) : Work Nat := do
  let name := "touch"
  let switches :=
    Switches.of "acmfh" "drtT"
      [
        ("no-create", 'c'), ("date", 'd'), ("reference", 'r'), ("no-dereference", 'h'),
        ("time", 'T')
      ]
  let arguments ← arguments switches 1 name words
  let now := (← get).files.stamp.time
  let time ←
    match arguments.value? 'd', arguments.value? 't', arguments.value? 'r' with
    | some text, _, _ =>
        match Calendar.read? now text with
        | some time => pure time
        | none => fail 1 name s!"invalid date format {marked text}"
    | none, some text, _ =>
        match stampOf? now text with
        | some time => pure time
        | none => fail 1 name s!"invalid date format {marked text}"
    | none, none, some path =>
        match ← nodeAt? path with
        | some node => pure node.time
        | none => do
            if ← isDirectory path then pure now
            else
              fail 1 name
                s!"failed to get attributes of {quoted path}: {FileError.reason .notFound}"
    | none, none, none => pure now
  if arguments.operands.isEmpty then misuse 1 name "missing file operand"
  let mut isFine := true
  for path in arguments.operands do
    let isVacant := path ≠ "-" && (← entryAt? path).isNone
    let mut isThere := true
    if isVacant ∧ arguments.has 'c' then isThere := false
    else if isVacant then
      match ← change (·.append · []) path with
      | .ok () => pure ()
      | .error e => do
          if path.endsWith "/" then
            warn name s!"setting times of {quoted path}: {FileError.reason .notFound}"
          else warn name s!"cannot touch {quoted path}: {e.reason}"
          isFine := false
          isThere := false
    if isThere ∧ !(arguments.has 'a' ∧ !arguments.has 'm') then
      match ← if arguments.has 'h' then routeOfName? path else routeOf? path with
      | .ok route => setFiles (·.setTime route time)
      | .error _ => pure ()
  return statusOf isFine

/-! ### Permissions -/

/-- A text of permissions that would be taken for switches. -/
def isModeWord (word : String) : Bool :=
  word.length > 1 && word.startsWith "-" && !word.startsWith "--"
    && (Permission.read? word).isSome

def setModes (words : List String) : Work Nat := do
  let name := "chmod"
  let modeWord? := (words.takeWhile (· ≠ "--")).find? isModeWord
  let switches :=
    Switches.of "Rvcf\x01" "\x02"
      [
        ("recursive", 'R'), ("verbose", 'v'), ("changes", 'c'), ("silent", 'f'), ("quiet", 'f'),
        ("preserve-root", '\x01'), ("no-preserve-root", '\x01'), ("reference", '\x02')
      ]
  let arguments ← arguments switches 1 name (words.filter fun word => some word ≠ modeWord?)
  let given :=
    if (arguments.value? '\x02').isSome then "0" :: arguments.operands
    else modeWord?.toList ++ arguments.operands
  match given with
  | [] => misuse 1 name "missing operand"
  | [mode] =>
      if (arguments.value? '\x02').isSome then misuse 1 name "missing operand"
      else misuse 1 name s!"missing operand after {marked mode}"
  | mode :: paths => do
      let setting ←
        match arguments.value? '\x02' with
        | some path =>
            match ← nodeAt? path with
            | some node => pure (Permission.Setting.fixed node.mode)
            | none =>
                fail 1 name
                  s!"failed to get attributes of {quoted path}: {FileError.reason .notFound}"
        | none =>
            match Permission.read? mode with
            | some setting => pure setting
            | none => misuse 1 name s!"invalid mode: {marked mode}"
      let mut isFine := true
      for path in paths do
        match (← get).files.stat (← locate path) with
        | .error e => do
            if !arguments.has 'f' then
              match ← namedAt? path with
              | some (.link _) => warn name s!"cannot operate on dangling symlink {quoted path}"
              | _ => warn name s!"cannot access {quoted path}: {e.reason}"
            isFine := false
        | .ok entry => do
            let inside ←
              if arguments.has 'R' ∧ entry = .directory then entriesWithin maxLevels path
              else pure []
            for one in path :: inside.reverse.map Prod.fst do
              match ← nodeAt? one with
              | none => pure ()
              | some before => do
                  setModeAt setting one
                  let after := ((← nodeAt? one).map Inode.mode).getD 0
                  let shown (mode : Nat) : String :=
                    s!"{Permission.octal 4 mode} ({Permission.shown mode})"
                  if after ≠ before.mode then
                    if arguments.has 'v' ∨ arguments.has 'c' then
                      sayLine
                        s!"mode of {quoted one} changed from {shown before.mode} to {shown after}"
                  else if arguments.has 'v' then
                    sayLine s!"mode of {quoted one} retained as {shown after}"
      return statusOf isFine

/-! ### Sizes -/

/-- The size that a text asks for where there is one already. -/
def sizeFrom? (text : String) (size : Nat) : Option Nat :=
  match text.toList with
  | '+' :: cs => (countOf? (String.ofList cs)).map (size + ·)
  | '-' :: cs => (countOf? (String.ofList cs)).map (size - ·)
  | '<' :: cs => (countOf? (String.ofList cs)).map (min size)
  | '>' :: cs => (countOf? (String.ofList cs)).map (max size)
  | '/' :: cs =>
      (countOf? (String.ofList cs)).bind fun step =>
        if step = 0 then none else some (size / step * step)
  | '%' :: cs =>
      (countOf? (String.ofList cs)).bind fun step =>
        if step = 0 then none else some ((size + step - 1) / step * step)
  | _ => countOf? text

def setSizes (words : List String) : Work Nat := do
  let name := "truncate"
  let switches :=
    Switches.of "co" "sr"
      [("no-create", 'c'), ("io-blocks", 'o'), ("size", 's'), ("reference", 'r')]
  let arguments ← arguments switches 1 name words
  let wanted ←
    match arguments.value? 's', arguments.value? 'r' with
    | some text, _ =>
        if (sizeFrom? text 0).isNone then fail 1 name s!"Invalid number: {marked text}"
        else pure text
    | none, some path =>
        match ← entryAt? path with
        | some (.file content) => pure (toString content.length)
        | _ => fail 1 name s!"cannot stat {quoted path}: {FileError.reason .notFound}"
    | none, none => misuse 1 name "you must specify either '--size' or '--reference'"
  if arguments.operands.isEmpty then misuse 1 name "missing file operand"
  let mut isFine := true
  for path in arguments.operands do
    if !((← entryAt? path).isNone ∧ arguments.has 'c') then
      let before := ((← get).files.read (← locate path)).toOption.getD []
      let size := (sizeFrom? wanted before.length).getD 0
      let after := before.take size ++ List.replicate (size - before.length) 0
      match ← change (·.write · after) path with
      | .ok () => pure ()
      | .error e => do
          warn name s!"cannot open {quoted path} for writing: {e.reason}"
          isFine := false
  return statusOf isFine

/-! ### Names of their own -/

/-- Letters for a name that no other entry has. -/
def freshLetters (size number : Nat) : List Char :=
  let letters := "abcdefghijklmnopqrstuvwxyzABCDEFGHIJKLMNOPQRSTUVWXYZ0123456789".toList
  (List.range size).map fun i =>
    letters.getD ((number * 7919 + i * 31 + number / (i + 1) * 13 + 11) % letters.length) 'a'

def makeFresh (words : List String) : Work Nat := do
  let name := "mktemp"
  let switches : Switches :=
    {
      letters := Switches.letters
        (Switches.of "dqtuVh" "s" []) ++ [('p', .value), ('\x01', .optional)]
      names :=
        [
          ("directory", 'd'), ("quiet", 'q'), ("dry-run", 'u'), ("tmpdir", '\x01'),
          ("suffix", 's')
        ]
      permutes := true
    }
  let arguments ← arguments switches 1 name words
  let template? := arguments.operands.head?
  if arguments.operands.length > 1 then misuse 1 name "too many templates"
  let template := template?.getD "tmp.XXXXXXXXXX"
  let ending := (arguments.value? 's').getD ""
  let behind :=
    if (arguments.value? 's').isSome then []
    else template.toList.reverse.takeWhile (· ≠ 'X') |>.reverse
  let body := template.toList.take (template.length - behind.length)
  let size := (body.reverse.takeWhile (· = 'X')).length
  if size < 3 then
    fail 1 name s!"too few X's in template {marked template}"
  let directory? :=
    match arguments.value? 'p' <|> arguments.value? '\x01' with
    | some "" => some "/tmp"
    | some path => some path
    | none => if arguments.has 't' ∨ template?.isNone then some "/tmp" else none
  let number := (← get).files.nodes.size
  let front := String.ofList (body.take (body.length - size))
  let made :=
    front ++ String.ofList (freshLetters size number ++ behind) ++ ending
  let path :=
    match directory? with
    | some directory => Files.joinPath directory made
    | none => made
  if arguments.has 'u' then
    sayLine path
    return 0
  let isOuter := arguments.has 'd'
  match ← change (·.make · (if isOuter then .directory else .file [])) path with
  | .ok () => do
      setModeAt (.fixed (if isOuter then 0o700 else 0o600)) path
      sayLine path
      return 0
  | .error e => do
      let kind := if isOuter then "directory" else "file"
      let shown :=
        match directory? with
        | some directory => Files.joinPath directory template
        | none => template
      if !arguments.has 'q' then
        warn name s!"failed to create {kind} via template {marked shown}: {e.reason}"
      return 1

end MailMerge.Shell.Utility

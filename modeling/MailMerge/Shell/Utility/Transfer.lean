import MailMerge.Shell.Utility.Directory

/-! Utilities that copy, move and name entries. -/

namespace MailMerge.Shell.Utility

open Work Files

/-- Checks the operands of a copy or a move, and tells the sources and the target. -/
def sourcesAndTarget (name : String) (arguments : Arguments) : Work (List String × String) := do
  match arguments.value? 't', arguments.operands with
  | some target, sources => do
      if sources.isEmpty then misuse 1 name "missing file operand"
      if !(← isDirectory target) then
        let reason := if (← entryAt? target).isSome then FileError.notDirectory else .notFound
        fail 1 name s!"target directory {quoted target}: {reason.reason}"
      return (sources, target)
  | none, [] => misuse 1 name "missing file operand"
  | none, [source] =>
      misuse 1 name s!"missing destination file operand after {quoted source}"
  | none, operands => do
      let target := operands.getLast?.getD ""
      let sources := operands.dropLast
      if sources.length > 1 ∧ arguments.has 'T' then
        misuse 1 name ("extra operand " ++ quoted (operands.getD 2 ""))
      if sources.length > 1 ∧ !(← isDirectory target) then
        let reason := if (← entryAt? target).isSome then FileError.notDirectory else .notFound
        fail 1 name s!"target {quoted target}: {reason.reason}"
      return (sources, target)

/-- The place that a file gets: within the target if that is a directory. -/
def placeIn (target source : String) (arguments : Arguments) : Work String := do
  let isThere : Bool :=
    (arguments.value? 't').isSome || (!arguments.has 'T' && (← isDirectory target))
  if !isThere then return target
  else if arguments.has '\x03' then return Files.joinPath target source
  else return Files.joinPath target (baseName source)

/-- Whether two paths lead to one file. -/
def isSame (first second : String) : Work Bool := do
  let files := (← get).files
  match ← routeOf? first, ← routeOf? second with
  | .ok x, .ok y =>
      return (files.find? x).isSome
        && (x = y || ((files.places.lookup x).isSome
          && files.places.lookup x = files.places.lookup y))
  | _, _ => return false

def transferSwitches : Switches where
  letters :=
    ("abdfilnprsuvxHLPRTZ\x01\x02\x03\x04".toList.map (·, .alone)) ++ [('t', .value), ('S', .value)]
      ++ [('\x05', .optional), ('\x06', .optional)]
  names :=
    [
      ("archive", 'a'), ("force", 'f'), ("no-clobber", 'n'), ("recursive", 'r'),
      ("target-directory", 't'), ("no-target-directory", 'T'), ("update", '\x05'),
      ("verbose", 'v'), ("interactive", 'i'), ("link", 'l'), ("symbolic-link", 's'),
      ("dereference", 'L'), ("no-dereference", 'P'), ("backup", '\x06'), ("suffix", 'S'),
      ("preserve", '\x04'), ("parents", '\x03'), ("remove-destination", '\x02'),
      ("strip-trailing-slashes", '\x01'), ("one-file-system", 'x')
    ]
  permutes := true

/-- Whether permissions and times go along with a copy. -/
def preserves (arguments : Arguments) : Bool :=
  arguments.has 'p' || arguments.has 'a'

/-- Whether directories are copied with what stands in them. -/
def isDeepCopy (arguments : Arguments) : Bool :=
  "arR".toList.any arguments.has

/-- Whether links are copied as links. -/
def keepsLinks (arguments : Arguments) : Bool :=
  (arguments.has 'P' || arguments.has 'd' || arguments.has 'a'
    || arguments.has 'r' || arguments.has 'R') && !arguments.has 'L'

/-- Whether an entry that stands at the target may be replaced. -/
def mayReplace (name : String) (arguments : Arguments) (source target : String)
    : Work (Option Bool) := do
  let wishes := (arguments.found.map Prod.fst).filter fun letter => "fin".toList.contains letter
  match wishes.getLast? with
  | some 'n' =>
      if name = "mv" then
        warn name s!"not replacing {quoted target}"
        return none
      else return some false
  | some 'i' =>
      if ← confirm s!"{name}: overwrite {quoted target}? " then return some true
      else return none
  | _ =>
      let updates := (arguments.has 'u') || (arguments.value? '\x05').any fun text =>
        text = "" || text = "older"
      if (arguments.value? '\x05') = some "none" then return some false
      else if updates then
        match ← nodeAt? source, ← nodeAt? target with
        | some from1, some to1 => return some (to1.time < from1.time)
        | _, _ => return some true
      else return some true

/-- The name under which what stands at the target is kept, if it is. -/
def backupName? (arguments : Arguments) (target : String) : Option String :=
  if arguments.has 'b' ∨ arguments.has '\x06' ∨ arguments.has 'S' then
    some (target ++ (arguments.value? 'S').getD "~")
  else none

/-- Keeps what stands at the target under another name, if that is asked for. -/
def backUp (arguments : Arguments) (target : String) : Work String := do
  match backupName? arguments target with
  | none => return ""
  | some kept =>
      match ← routeOfName? target, ← routeOfName? kept with
      | .ok from1, .ok to1 => do
          if (← namedAt? target).isSome then
            setFiles (·.relocate from1 to1)
            return s!" (backup: {quoted kept})"
          else return ""
      | _, _ => return ""

/-- Gives the entry at the target what goes along with a copy. -/
def settle (arguments : Arguments) (node : Inode) (target : String) (isNew : Bool) : Work Unit := do
  match ← routeOfName? target with
  | .ok route =>
      setFiles fun files =>
        if preserves arguments then
          (files.setMode route node.mode).setTime route node.time
        else if isNew then
          files.setMode route (Permission.without node.mode files.stamp.mask)
        else files
  | .error _ => pure ()

/-! ### Copying -/

/-- Copies what stands at a path, and tells whether that went well. -/
def copyEntry (arguments : Arguments) : Nat → Bool → String → String → Work Bool
  | 0, _, _, _ => return false
  | fuel + 1, isTop, source, target => do
      let name := "cp"
      let refuse (problem : String) : Work Bool := do
        warn name problem
        return false
      let told (note : String) : Work Bool := do
        if arguments.has 'v' then sayLine s!"{quoted source} -> {quoted target}{note}"
        return true
      let files := (← get).files
      let located ← locate source
      let place := if keepsLinks arguments then files.resolveName located else files.resolve located
      match place.bind fun route => (files.entryAt (.ok route)).map fun entry => (route, entry) with
      | .error e => refuse s!"cannot stat {quoted source}: {e.reason}"
      | .ok (from1, .directory) => do
          if !(isDeepCopy arguments) then
            let hint := "-r not specified; omitting directory "
            return ← refuse (hint ++ quoted source)
          match ← namedAt? target, ← routeOf? target with
          | some (.file _), _ =>
              refuse s!"cannot overwrite non-directory {quoted target} with directory {quoted source}"
          | _, .error e => refuse s!"cannot create directory {quoted target}: {e.reason}"
          | found?, .ok to1 => do
              if isTop ∧ from1.isPrefixOf to1 ∧ from1 ≠ to1 then
                return ← refuse
                  s!"cannot copy a directory, {quoted source}, into itself, {quoted target}"
              if from1 = to1 then
                return ← refuse s!"{quoted source} and {quoted target} are the same file"
              let isNew := found?.isNone
              if isNew then
                match ← change Tree.makeDirectory (trimSlashes target) with
                | .ok () => let _ ← told ""
                | .error e =>
                    return ← refuse s!"cannot create directory {quoted target}: {e.reason}"
              let results ← (← namesIn source true).mapM fun inside =>
                copyEntry arguments fuel false (Files.joinPath source inside)
                  (Files.joinPath target inside)
              match files.nodeAt? from1 with
              | some node => settle arguments node target isNew
              | none => pure ()
              return results.all id
      | .ok (from1, entry) => do
          if (← namedAt? target) = some Entry.directory then
            return ← refuse s!"cannot overwrite directory {quoted target} with non-directory"
          if (← isSame source target) ∧ (backupName? arguments target).isNone
              ∧ !(arguments.has 'l' ∨ arguments.has 's') then
            return ← refuse s!"{quoted source} and {quoted target} are the same file"
          let found? ← namedAt? target
          if found?.isSome then
            match ← mayReplace name arguments source target with
            | some true => pure ()
            | some false => return true
            | none => return false
          let note ← backUp arguments target
          match ← namedAt? target, ← entryAt? target with
          | some (.link _), none =>
              if !(keepsLinks arguments) then
                return ← refuse s!"not writing through dangling symlink {quoted target}"
          | _, _ => pure ()
          let isNew := (← namedAt? target).isNone
          let node? := files.nodeAt? from1
          let bad (kind reason : String) : Work Bool :=
            refuse s!"cannot create {kind} {quoted target}: {reason}"
          match entry with
          | .link _ => do
              if !isNew then let _ ← change Tree.removeFile target
              match ← change (·.make · entry) target with
              | .ok () => told note
              | .error e => bad "symbolic link" e.reason
          | _ =>
              if arguments.has 's' then
                match ← change (·.make · (.link (unspell source))) target with
                | .ok () => told note
                | .error e => bad "symbolic link" (e.reason ++ s!" to {quoted source}")
              else if arguments.has 'l' then
                match ← routeOfName? target, files.places.lookup from1 with
                | .ok to1, some i =>
                    if isNew then
                      setFiles (·.name i to1)
                      told note
                    else if ← isSame source target then return true
                    else refuse s!"cannot create hard link {quoted target} to {quoted source}: File exists"
                | .error e, _ => bad "hard link" e.reason
                | _, none => return false
              else
                let content :=
                  match entry with
                  | .file content => content
                  | _ => []
                match ← change (·.write · content) target with
                | .ok () => do
                    if let some node := node? then settle arguments node target isNew
                    told note
                | .error e =>
                    let reason := if target.endsWith "/" then FileError.notDirectory else e
                    bad "regular file" reason.reason

/-- Copies what a device holds. -/
def copyDevice (source target : String) : Work Bool := do
  match ← content source with
  | .error _ => return false
  | .ok text =>
      match ← change (·.write · (ofOctets text)) target with
      | .ok () => return true
      | .error e => do
          warn "cp" s!"cannot create regular file {quoted target}: {e.reason}"
          return false

def copyOne (arguments : Arguments) (source target : String) : Work Bool := do
  if source = "/dev/stdin" ∨ source = "/dev/null" then copyDevice source target
  else if target = "/dev/stdout" ∨ target = "/dev/null" then
    match ← content source with
    | .ok text => do
        if target = "/dev/stdout" then say text
        return true
    | .error e => do
        let problem :=
          if e = .isDirectory then "-r not specified; omitting directory " ++ quoted source
          else s!"cannot stat {quoted source}: {e.reason}"
        warn "cp" problem
        return false
  else copyEntry arguments maxLevels true source target

def copy (words : List String) : Work Nat := do
  let name := "cp"
  let arguments ← arguments transferSwitches 1 name words
  if arguments.has 'n' then
    warn name <|
      "warning: behavior of -n is non-portable and may change in future; "
        ++ "use --update=none instead"
  let (sources, target) ← sourcesAndTarget name arguments
  if arguments.has '\x03' ∧ !(← isDirectory target) then
    misuse 1 name "with --parents, the destination must be a directory"
  let results ← sources.mapM fun source => do
    if arguments.has '\x03' then
      let _ ← makePath (Files.joinPath target (directoryName source))
    copyOne arguments source (← placeIn target source arguments)
  return statusOf (results.all id)

/-! ### Moving -/

/-- Moves one file or directory, and tells whether that went well. -/
def moveOne (arguments : Arguments) (source target : String) : Work Bool := do
  let name := "mv"
  let refuse (problem : String) : Work Bool := do
    warn name problem
    return false
  let source := if arguments.has '\x01' then trimSlashes source else source
  match (← get).files.statName (← locate source), ← routeOfName? source with
  | .ok entry, .ok from1 => do
      match ← routeOfName? target with
      | .error e => refuse s!"cannot move {quoted source} to {quoted target}: {e.reason}"
      | .ok to1 => do
          let files := (← get).files
          let found? := files.find? to1
          let isOuter : Bool := entry = .directory
          if from1 = to1 ∨ (found?.isSome ∧ !isOuter
              ∧ files.places.lookup from1 = files.places.lookup to1) then
            return ← refuse s!"{quoted source} and {quoted target} are the same file"
          if found?.isSome then
            match ← mayReplace name arguments source target with
            | some true => pure ()
            | some false => return true
            | none => return false
          match isOuter, found? with
          | true, some .directory =>
              if from1.isPrefixOf to1 then
                refuse s!"cannot move {quoted source} to a subdirectory of itself, {quoted target}"
              else if files.isBare to1 then finish from1 to1 source target
              else refuse s!"cannot overwrite {quoted target}: Directory not empty"
          | true, some _ =>
              refuse s!"cannot overwrite non-directory {quoted target} with directory {quoted source}"
          | false, some .directory =>
              refuse s!"cannot overwrite directory {quoted target} with non-directory"
          | _, _ =>
              if from1.isPrefixOf to1 then
                refuse s!"cannot move {quoted source} to a subdirectory of itself, {quoted target}"
              else if !isOuter ∧ target.endsWith "/" then
                refuse s!"cannot move {quoted source} to {quoted target}: Not a directory"
              else if (files.find? to1.dropLast) ≠ some .directory then
                refuse s!"cannot move {quoted source} to {quoted target}: No such file or directory"
              else finish from1 to1 source target
  | .error e, _ | _, .error e => refuse s!"cannot stat {quoted source}: {e.reason}"
where
  /-- Moves what stands at a route. -/
  finish (from1 to1 : Route) (source target : String) : Work Bool := do
    let note ← backUp arguments target
    setFiles (·.relocate from1 to1)
    if arguments.has 'v' then sayLine s!"renamed {quoted source} -> {quoted target}{note}"
    return true

def move (words : List String) : Work Nat := do
  let name := "mv"
  let arguments ← arguments transferSwitches 1 name words
  let (sources, target) ← sourcesAndTarget name arguments
  let results ← sources.mapM fun source => do
    moveOne arguments source (← placeIn target source arguments)
  return statusOf (results.all id)

/-! ### Naming -/

/-- Gives what a path leads to another name, and tells whether that went well. -/
def linkOne (arguments : Arguments) (source target : String) : Work Bool := do
  let name := "ln"
  let isSoft := arguments.has 's'
  let kind := if isSoft then "symbolic" else "hard"
  let refuse (problem : String) : Work Bool := do
    warn name problem
    return false
  let files := (← get).files
  let located ← locate source
  let place := if arguments.has 'L' then files.resolve located else files.resolveName located
  let entry? := files.entryAt place
  match isSoft, entry?, place with
  | false, .error e, _ => refuse s!"failed to access {quoted source}: {e.reason}"
  | false, .ok .directory, _ =>
      refuse s!"{quotedAsNeeded source}: hard link not allowed for directory"
  | _, _, _ => do
      match ← routeOfName? target with
      | .error e => refuse s!"failed to create {kind} link {quoted target}: {e.reason}"
      | .ok to1 => do
          let found? := files.find? to1
          if found?.isSome ∧ (arguments.has 'f' ∨ arguments.has 'i') then
            if place.toOption = some to1 ∧ !isSoft then
              return ← refuse s!"{quoted source} and {quoted target} are the same file"
            if found? = some .directory then
              return ← refuse s!"{quotedAsNeeded target}: cannot overwrite directory"
            if arguments.has 'i' ∧ !(← confirm s!"{name}: replace {quoted target}? ") then
              return false
            setFiles (·.prune to1)
          let note ← backUp arguments target
          let text :=
            if arguments.has 'r' then
              match files.resolve located with
              | .ok from1 => relativeTo to1.dropLast from1
              | .error _ => source
            else source
          let result : Except FileError Unit ←
            if isSoft then
              if source = "" then pure (.error .notFound)
              else change (·.make · (.link (unspell text))) target
            else
              match place.toOption.bind (fun route => files.places.lookup route), (← get).files.find? to1 with
              | _, some _ => pure (.error .alreadyThere)
              | some i, none =>
                  if files.find? to1.dropLast = some .directory then
                    setFiles (·.name i to1)
                    pure (.ok ())
                  else pure (.error .notFound)
              | none, none => pure (.error .notPermitted)
          match result with
          | .ok () => do
              let arrow := if isSoft then "->" else "=>"
              if arguments.has 'v' then
                sayLine s!"{quoted target} {arrow} {quoted text}{note}"
              return true
          | .error e =>
              let shown := if isSoft ∨ e = .alreadyThere then "" else s!" => {quoted source}"
              refuse s!"failed to create {kind} link {quoted target}{shown}: {e.reason}"

def link (words : List String) : Work Nat := do
  let name := "ln"
  let switches : Switches :=
    {
      letters :=
        ("bdFfinLPrsTv".toList.map (·, .alone))
          ++ [('t', .value), ('S', .value), ('\x06', .optional)]
      names :=
        [
          ("force", 'f'), ("symbolic", 's'), ("no-dereference", 'n'), ("interactive", 'i'),
          ("logical", 'L'), ("physical", 'P'), ("relative", 'r'), ("verbose", 'v'),
          ("target-directory", 't'), ("no-target-directory", 'T'), ("backup", '\x06'),
          ("suffix", 'S')
        ]
      permutes := true
    }
  let arguments ← arguments switches 1 name words
  match arguments.operands, arguments.value? 't' with
  | [], _ => misuse 1 name "missing file operand"
  | [source], none => do
      if arguments.has 'T' then
        misuse 1 name s!"missing destination file operand after {quoted source}"
      return statusOf (← linkOne arguments source ("./" ++ baseName source))
  | sources, some target => do
      if !(← isDirectory target) then
        let reason := if (← entryAt? target).isSome then FileError.notDirectory else .notFound
        fail 1 name s!"target directory {quoted target}: {reason.reason}"
      let results ← sources.mapM fun source => do
        linkOne arguments source (Files.joinPath target (baseName source))
      return statusOf (results.all id)
  | operands, none => do
      let target := operands.getLast?.getD ""
      let isName : Bool :=
        arguments.has 'T'
          || (arguments.has 'n' && ((← namedAt? target) matches some (.link _)))
      let isInside := !isName && (← isDirectory target)
      if operands.length > 2 ∧ !isInside then
        let reason := if (← entryAt? target).isSome then FileError.notDirectory else .notFound
        fail 1 name s!"target {quoted target}: {reason.reason}"
      let results ← operands.dropLast.mapM fun source => do
        linkOne arguments source
          (if isInside then Files.joinPath target (baseName source) else target)
      return statusOf (results.all id)

/-- Gives a file one more name, without switches. -/
def linkPlainly (words : List String) : Work Nat := do
  let name := "link"
  let { operands, .. } ← arguments (Switches.of "" "" []) 1 name words
  match operands with
  | [] => misuse 1 name "missing operand"
  | [source] => misuse 1 name s!"missing operand after {quoted source}"
  | [source, target] => do
      let files := (← get).files
      let refuse (e : FileError) : Work Nat :=
        fail 1 name s!"cannot create link {quoted target} to {quoted source}: {e.reason}"
      match ← routeOfName? source, ← routeOfName? target with
      | .ok from1, .ok to1 =>
          match files.find? from1, files.places.lookup from1, files.find? to1 with
          | none, _, _ => refuse .notFound
          | some .directory, _, _ => refuse .notPermitted
          | some _, some i, none => do
              setFiles (·.name i to1)
              return 0
          | _, _, _ => refuse .alreadyThere
      | .error e, _ | _, .error e => refuse e
  | _ => misuse 1 name ("extra operand " ++ quoted (operands.getD 2 ""))

def unlink (words : List String) : Work Nat := do
  let name := "unlink"
  let { operands, .. } ← arguments (Switches.of "" "" []) 1 name words
  match operands with
  | [] => misuse 1 name "missing operand"
  | [path] =>
      match ← change Tree.removeFile path with
      | .ok () => return 0
      | .error e => fail 1 name s!"cannot unlink {quoted path}: {e.reason}"
  | _ => misuse 1 name ("extra operand " ++ quoted (operands.getD 1 ""))

end MailMerge.Shell.Utility

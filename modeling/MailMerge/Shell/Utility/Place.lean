import MailMerge.Shell.Utility.Order

/-! Paths as utilities take them apart, and the places that they lead to. -/

namespace MailMerge.Shell.Utility

open Work Files

/-- A path without the slashes at its end. -/
def trimSlashes (path : String) : String :=
  let trimmed := String.ofList (path.toList.reverse.dropWhile (· = '/')).reverse
  if trimmed = "" ∧ path ≠ "" then "/" else trimmed

/-- The last name of a path. -/
def baseName (path : String) : String :=
  let trimmed := trimSlashes path
  if trimmed = "/" ∨ trimmed = "" then trimmed
  else ((trimmed.splitOn "/").getLast?).getD ""

/-- What stands in front of the last name of a path. -/
def directoryName (path : String) : String :=
  let trimmed := trimSlashes path
  if !trimmed.toList.contains '/' then "."
  else
    let before := trimmed.toList.reverse.dropWhile (· ≠ '/')
    trimSlashes (String.ofList before.reverse)

/-- The route that a path leads to. -/
def routeOf? (path : String) : Work (Except FileError Route) := do
  return (← get).files.resolve (← locate path)

/-- The route of the entry that a path names, be it a link. -/
def routeOfName? (path : String) : Work (Except FileError Route) := do
  return (← get).files.resolveName (← locate path)

def setFiles (change : Tree → Tree) : Work Unit :=
  modify fun station => { station with files := change station.files }

/-- The node that a path leads to. -/
def nodeAt? (path : String) : Work (Option Inode) := do
  match ← routeOf? path with
  | .ok route => return (← get).files.nodeAt? route
  | .error _ => return none

/-- The names in a directory, in their order. -/
def namesIn (path : String) (showsHidden : Bool) : Work (List String) := do
  match (← get).files.list (← locate path) with
  | .error _ => return []
  | .ok entries =>
      let names := entries.map fun entry => spell entry.1
      let names := if showsHidden then names else names.filter (!·.startsWith ".")
      return names.mergeSort fun x y => x ≤ y

/-! ### Names of paths -/

def showBaseNames (words : List String) : Work Nat := do
  let name := "basename"
  let switches := Switches.of "az" "s" [("multiple", 'a'), ("suffix", 's'), ("zero", 'z')]
  let arguments ← arguments { switches with permutes := false } 1 name words
  let ending := if arguments.has 'z' then ['\x00'] else [newline]
  let strip (suffix path : String) : String :=
    let base := baseName path
    if suffix ≠ "" ∧ base ≠ suffix ∧ base.endsWith suffix then
      (base.dropEnd suffix.length).toString
    else base
  let tell (text : String) : Work Unit := say (text.toList ++ ending)
  match arguments.operands with
  | [] => misuse 1 name "missing operand"
  | operands => do
      if arguments.has 'a' ∨ arguments.has 's' then
        for path in operands do tell (strip ((arguments.value? 's').getD "") path)
      else
        match operands with
        | [path] => tell (baseName path)
        | [path, suffix] => tell (strip suffix path)
        | _ => misuse 1 name ("extra operand " ++ marked (operands.getD 2 ""))
      return 0

def showDirectoryNames (words : List String) : Work Nat := do
  let name := "dirname"
  let arguments ← arguments (Switches.of "z" "" [("zero", 'z')]) 1 name words
  let ending := if arguments.has 'z' then ['\x00'] else [newline]
  if arguments.operands.isEmpty then misuse 1 name "missing operand"
  for path in arguments.operands do say ((directoryName path).toList ++ ending)
  return 0

/-! ### Links -/

/-- A route as a path from the very top. -/
def absolutePath (route : Route) : String :=
  match route with
  | "/" :: names => "/" ++ "/".intercalate (names.map spell)
  | [] => Tree.rootPath
  | names => Tree.rootPath ++ "/" ++ "/".intercalate (names.map spell)

/-- How much of a path has to be there. -/
inductive Presence where
  | whole
  | allButLast
  | nothing
  deriving DecidableEq, Repr

/-- The place that a path leads to, if enough of it is there. -/
def canonical (presence : Presence) (path : String) : Work (Except FileError Route) := do
  let files := (← get).files
  let located ← locate path
  match files.resolve located with
  | .ok route =>
      if presence = .whole then return (files.entryAt (.ok route)).map fun _ => route
      else if path.endsWith "/" ∧ (files.find? route).isNone ∧ presence = .allButLast then
        return .ok route
      else return .ok route
  | .error e =>
      if presence = .nothing ∧ path ≠ "" ∧ e ≠ .linkLoop then return .ok (Tree.routeOf located)
      else return .error e

def readLinks (words : List String) : Work Nat := do
  let name := "readlink"
  let switches :=
    Switches.of "femnqsvz" ""
      [
        ("canonicalize", 'f'), ("canonicalize-existing", 'e'), ("canonicalize-missing", 'm'),
        ("no-newline", 'n'), ("quiet", 'q'), ("silent", 's'), ("verbose", 'v'), ("zero", 'z')
      ]
  let arguments ← arguments switches 1 name words
  if arguments.operands.isEmpty then misuse 1 name "missing operand"
  let presence? : Option Presence :=
    (arguments.found.reverse.map Prod.fst).findSome? fun letter =>
      match letter with
      | 'f' => some .allButLast
      | 'e' => some .whole
      | 'm' => some .nothing
      | _ => none
  let isBare : Bool := arguments.has 'n' && arguments.operands.length = 1
  let ending := if isBare then [] else if arguments.has 'z' then ['\x00'] else [newline]
  let mut isFine := true
  for path in arguments.operands do
    let found : Except FileError String ←
      match presence? with
      | some presence => pure ((← canonical presence path).map absolutePath)
      | none =>
          match (← get).files.statName (← locate path) with
          | .ok (.link target) => pure (.ok (spell target))
          | .ok _ => pure (.error .notLink)
          | .error e => pure (.error e)
    match found with
    | .ok text => say (text.toList ++ ending)
    | .error e => do
        if arguments.has 'v' then warn name s!"{quotedAsNeeded path}: {e.reason}"
        isFine := false
  return statusOf isFine

/-- A route as a path that starts in a directory. -/
def relativeTo (base route : Route) : String :=
  let shared := ((base.zip route).takeWhile fun (x, y) => x = y).length
  let steps := List.replicate (base.length - shared) ".." ++ (route.drop shared).map spell
  if steps = [] then "." else "/".intercalate steps

def showRealPaths (words : List String) : Work Nat := do
  let name := "realpath"
  let switches :=
    Switches.of "eEmLPqsz" "rb"
      [
        ("canonicalize-existing", 'e'), ("canonicalize-missing", 'm'), ("logical", 'L'),
        ("physical", 'P'), ("quiet", 'q'), ("strip", 's'), ("no-symlinks", 's'),
        ("zero", 'z'), ("relative-to", 'r'), ("relative-base", 'b')
      ]
  let arguments ← arguments switches 1 name words
  if arguments.operands.isEmpty then misuse 1 name "missing operand"
  let presence : Presence :=
    if arguments.has 'e' then .whole else if arguments.has 'm' then .nothing else .allButLast
  let ending := if arguments.has 'z' then ['\x00'] else [newline]
  let place (path : String) : Work (Except FileError Route) := do
    if arguments.has 's' then return .ok (Tree.routeOf (← locate path))
    else canonical presence path
  let base? ←
    match arguments.value? 'r' <|> arguments.value? 'b' with
    | none => pure none
    | some path =>
        match ← place path with
        | .ok route => pure (some route)
        | .error e => fail 1 name s!"{path}: {e.reason}"
  let mut isFine := true
  for path in arguments.operands do
    match ← place path with
    | .ok route => do
        let shown :=
          match base? with
          | some base =>
              if arguments.has 'r' ∨ base.isPrefixOf route then relativeTo base route
              else absolutePath route
          | none => absolutePath route
        say (shown.toList ++ ending)
    | .error e => do
        if !arguments.has 'q' then warn name s!"{quotedAsNeeded path}: {e.reason}"
        isFine := false
  return statusOf isFine

end MailMerge.Shell.Utility

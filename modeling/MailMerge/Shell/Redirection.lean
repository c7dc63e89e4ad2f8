import MailMerge.Shell.Expansion

/-! Redirections: what channels are connected to while a command runs. -/

namespace MailMerge.Shell.Run

/-- What is wrong with a path that cannot be opened. -/
def openFault (path : String) (isMade : Bool) (e : Files.FileError) : String :=
  let isMissing : Bool := e = .notFound || e = .notDirectory
  let reason :=
    if !isMissing then e.reason
    else if isMade then "Directory nonexistent"
    else "No such file"
  let action := if isMade then "create" else "open"
  s!"cannot {action} {path}: {reason}"

/-- The channel that a path stands for. -/
def channelOf? (path : String) : Option Nat :=
  match path with
  | "/dev/stdin" => some 0
  | "/dev/stdout" => some 1
  | "/dev/stderr" => some 2
  | _ =>
      if path.startsWith "/dev/fd/" then natOf? (path.drop 8).toString
      else if path.startsWith "/proc/self/fd/" then natOf? (path.drop 14).toString
      else none

def deviceOf? (path : String) : Option Outlet :=
  match path with
  | "/dev/null" => some .nothing
  | "/dev/zero" => some (.endless false)
  | "/dev/urandom" | "/dev/random" => some (.endless true)
  | "/dev/full" => some .full
  | _ => none

/-- Opens a file. The tree of files may change with that. -/
def openFile (opening : Opening) (path : String) : Run (Except String Outlet) := do
  let files := (← world).files
  let isMade : Bool := opening ≠ .read
  match files.resolve (← locate path) with
  | .error e => return .error (openFault path isMade e)
  | .ok route =>
      match files.find? route, opening with
      | none, .read => return .error (openFault path false .notFound)
      | some .directory, .read => return .ok .directory
      | some .directory, _ => return .error (openFault path true .isDirectory)
      | some (.file _), .write =>
          if ← hasOption 'C' then return .error (openFault path true .alreadyThere)
      | _, _ => pure ()
      if opening = .write ∨ opening = .overwrite ∨ (files.find? route).isNone then
        changeFiles (·.put route (.file []))
      match (← world).files.places.lookup route with
      | some node => return .ok (.file node 0 (opening = .append))
      | none => return .error (openFault path isMade .notFound)

/-- Opens a path and tells the outlet that it stands for. -/
def openPath (opening : Opening) (path : String) : Run (Except String Nat) := do
  match channelOf? path, deviceOf? path with
  | some channel, _ =>
      match (← process).channels.lookup channel with
      | some index => return .ok index
      | none => return .error (openFault path (opening ≠ .read) .notFound)
  | none, some outlet => return .ok (← newOutlet outlet)
  | none, none =>
      if path = "/dev/tty" then
        let action := if opening = .read then "open" else "create"
        return .error s!"cannot {action} {path}: No such device or address"
      match ← openFile opening path with
      | .ok outlet => return .ok (← newOutlet outlet)
      | .error problem => return .error problem

/-- Makes a redirection, or tells what is wrong with it. -/
def redirect (runner : Runner) : Redirect → Run (Except String Unit)
  | .document channel number => do
      let content := ((← world).documents.lookup number).getD []
      let text := Bit.text (← runner.expand false content)
      let clock := (← world).clock
      let chunks := if text = "" then [] else [(clock, text.toList)]
      connect channel (← newOutlet (.source chunks (.ended clock)))
      return .ok ()
  | .file channel .copy target => do
      let text ← wordText runner target
      if text = "-" then
        disconnect channel
        return .ok ()
      match natOf? text with
      | none => fail "Syntax error: Bad fd number"
      | some number => do
          if 9 < number then fail "Syntax error: Bad fd number"
          match (← process).channels.lookup number with
          | some index => do
              connect channel index
              return .ok ()
          | none => return .error s!"{number}: Bad file descriptor"
  | .file channel opening target => do
      let path ← wordText runner target
      match ← openPath opening path with
      | .ok index => do
          connect channel index
          return .ok ()
      | .error problem => return .error problem

/-- Makes redirections up to one that fails. Tells whether all are made. -/
def redirectAll (runner : Runner) : List Redirect → Run Bool
  | [] => return true
  | first :: rest => do
      match ← redirect runner first with
      | .ok () => redirectAll runner rest
      | .error problem => do
          warn problem
          setStatus 2
          return false

/-- Connects some channels to what they were connected to. -/
def reconnect (channels : List Nat) (before : List (Nat × Nat)) : Run Unit := do
  for channel in channels do
    match before.lookup channel with
    | some index => connect channel index
    | none => disconnect channel

/-- Runs an action with redirections, which may stay in force behind it. The action is told
whether they could be made.
-/
def withRedirects (runner : Runner) (redirects : List Redirect) (action : Bool → Run Unit)
    (stays : Run Bool) : Run Unit := do
  if redirects.isEmpty then action true
  else
    let before := (← process).channels
    let halt ← attempt do action (← redirectAll runner redirects)
    if !(← stays) then reconnect (redirects.map Redirect.channel) before
    resume halt

end MailMerge.Shell.Run

import MailMerge.CommandLine.Standard

/-! The program itself: takes in the files that a run may look at, runs, prints what the run
has to say, and writes the files that the run changed.
-/

namespace MailMerge.Main

open CommandLine

/-- Takes in a file, or a directory with the files right below it. What is not there is
left out.
-/
def take (path : String) (tree : Files.Tree) : IO Files.Tree := do
  try
    let place ← IO.FS.realPath path
    if ← place.isDir then
      let mut tree := tree.plantDirectory path
      for entry in ← place.readDir do
        let below := path ++ "/" ++ entry.fileName
        if ← entry.path.isDir then
          tree := tree.plantDirectory below
        else
          let content ← IO.FS.readBinFile entry.path
          tree := tree.plant below content.toList
      return tree
    else
      let content ← IO.FS.readBinFile place
      return tree.plant path content.toList
  catch _ => return tree

/-- The options file that arguments name, and the options that they give besides it. -/
def given? (environment : Environment) (program : Program) (arguments : List String)
    : Option (Option String × Options) :=
  match program with
  | .mail =>
      (MailCli.parse environment.parser arguments).toOption.map fun cli =>
        (cli.config, cli.options)
  | .view =>
      (ViewCli.parse environment.parser arguments).toOption.map fun cli =>
        (cli.config, cli.options)

/-- Takes in the files that the arguments name, and the working directory for commands. -/
def takeAll (environment : Environment) (program : Program) (arguments : List String)
    : IO Files.Tree := do
  let some (config, given) := given? environment program arguments | return .empty
  let mut tree := Files.Tree.empty
  if let some path := config then
    tree ← take path tree
  match environment.loadOptions config given tree with
  | .error _ => return tree
  | .ok options =>
      if program = .mail ∧ !Mail.isPrintSetting options.mailerSetting then
        tree ← take "." tree
      if let some path := options.database then
        tree ← take path tree
      return tree

/-- Writes the files that differ from those that were taken in. -/
def put (before after : Files.Tree) : IO Unit := do
  for (route, entry) in after.entries do
    if let .file content := entry then
      if before.find? route ≠ some entry then
        IO.FS.writeBinFile (Files.Tree.pathOf route) (ByteArray.mk content.toArray)

/-- Runs a program and hands back its exit status. -/
def runProgram (program : Program) (arguments : List String) : IO UInt32 := do
  let environment := Environment.standard
  let files ← takeAll environment program arguments
  let run := environment.run program arguments files
  for event in run.log do
    IO.eprintln event.text
  IO.print (run.ending.output program)
  IO.eprint (run.ending.errors program)
  put files run.files
  return run.ending.exitCode.toUInt32

end MailMerge.Main

/-- Runs the viewer under its own name, and the mailing program under any other. -/
def main (arguments : List String) : IO UInt32 := do
  let isView := (← IO.appPath).fileStem = some MailMerge.CommandLine.Program.view.name
  MailMerge.Main.runProgram (if isView then .view else .mail) arguments

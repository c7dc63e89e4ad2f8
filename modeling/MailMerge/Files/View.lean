import MailMerge.Files.Tree

/-! What a program gets to see of a file system: what kind of entry a path leads to, the names
in a directory, and the contents of files. Whether it gets to see something may depend on
more than what is there, so each question may fail on its own.
-/

namespace MailMerge.Files

/-- What a path leads to, once links are followed. -/
inductive Kind where
  | file
  | directory
  | other
  deriving DecidableEq, Repr

structure View where
  stat : String → Except FileError Kind
  /-- The names of the entries of a directory, those of them that are texts. -/
  list : String → Except FileError (List String)
  read : String → Except FileError Bytes

/-- Whether a path is seen to lead to a file. -/
def View.isFile (files : View) (path : String) : Bool :=
  match files.stat path with
  | .ok .file => true
  | _ => false

def Entry.kind : Entry → Kind
  | file _ => .file
  | directory => .directory
  | link _ => .other

/-- All of a tree, as somebody sees it whom no permission keeps from anything. -/
def Tree.view (tree : Tree) : View where
  stat path := (tree.stat path).map Entry.kind
  list path := (tree.list path).map fun entries => entries.map Prod.fst
  read := tree.read

end MailMerge.Files

import MailMerge.Files.View
import MailMerge.Pipe.Command
import MailMerge.Select.Pattern

/-! What runs take from outside: the engine that runs patterns, the reader of comma-separated
records, the sight of files, and the host that starts commands.
-/

namespace MailMerge

/-- What a reader says of a file that it cannot read, and what it says of the causes behind that.
-/
structure Csv.ReadError where
  message : String
  causes : List String
  deriving DecidableEq, Repr

/-- A file that cannot be opened is reported with the error of opening it. -/
def Csv.ReadError.ofFile (cause : Files.FileError) : Csv.ReadError where
  message := cause.message
  causes := [cause.message]

structure Platform where
  limits : Select.Limits
  /-- The records in the content of a file, each with the texts of its fields. -/
  records : Bytes → Except Csv.ReadError (List (List String))
  /-- What is seen of a tree of files. -/
  view : Files.Tree → Files.View
  host : Pipe.Host Files.Tree

end MailMerge

import MailMerge.Source.Csv

/-! A platform where no other is at hand: the reader of records of this library, a bound on
patterns in place of that of an engine, and all of a tree of files. Commands are left to a
host.
-/

namespace MailMerge

namespace Select.Limits

/-- The most characters of no particular kind that an expression may hold. -/
def maxWildcards : Nat := 10000

/-- How many characters of no particular kind an expression holds: points without a backslash. -/
def countWildcards : List Char → Nat
  | [] => 0
  | '\\' :: _ :: cs => countWildcards cs
  | c :: cs => (if c = '.' then 1 else 0) + countWildcards cs

/-- Stands in for the bound of an engine on the size of what it compiles. -/
def standard : Limits where
  refusal? expression :=
    if countWildcards expression.toList ≤ maxWildcards then none
    else some "Compiled regex exceeds size limit of 10485760 bytes."

end Select.Limits

/-- A host whose commands take their input, print nothing and succeed. -/
def Pipe.Host.quiet {σ : Type} : Pipe.Host σ :=
  fun _ _ state =>
    let child : Pipe.Child :=
      {
        feeding := .complete
        ending := .ok (some (.code 0))
        stopping := .ok ()
        output := []
        errors := []
      }
    (.ok child, state)

def Platform.standard (host : Pipe.Host Files.Tree) : Platform where
  limits := .standard
  records := Csv.records
  view := Files.Tree.view
  host

end MailMerge

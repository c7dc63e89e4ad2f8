import MailMerge.Shell.Octets

/-! The order of names that hold numbers of versions: runs of digits are compared as numbers,
and what ends in letters behind a point, as the names of files do, is first compared without
that.
-/

namespace MailMerge.Shell.Version

/-- The rank of a character in front of a run of digits. -/
def rank : Option Char → Int
  | none => -1
  | some c =>
      if c.isDigit then 0
      else if c.isAlpha then c.toNat
      else if c = '~' then -2
      else (c.toNat : Int) + 256

/-- Compares what stands in front of the digits in two texts. -/
def compareFront : List Char → List Char → Ordering × List Char × List Char
  | x :: xs, y :: ys =>
      if x.isDigit ∧ y.isDigit then (.eq, x :: xs, y :: ys)
      else
        match compare (rank (some x)) (rank (some y)) with
        | .eq => compareFront xs ys
        | found => (found, xs, ys)
  | x :: xs, [] =>
      if x.isDigit then (.eq, x :: xs, []) else (compare (rank (some x)) (rank none), xs, [])
  | [], y :: ys =>
      if y.isDigit then (.eq, [], y :: ys) else (compare (rank none) (rank (some y)), [], ys)
  | [], [] => (.eq, [], [])

/-- Compares the numbers at the heads of two texts. -/
def compareNumbers (xs ys : List Char) : Ordering × List Char × List Char :=
  let digits (cs : List Char) : List Char := (cs.dropWhile (· = '0')).takeWhile Char.isDigit
  let behind (cs : List Char) : List Char := cs.dropWhile Char.isDigit
  let (first, second) := (digits xs, digits ys)
  let order :=
    match compare first.length second.length with
    | .eq => compare first second
    | found => found
  (order, behind xs, behind ys)

/-- Compares texts part by part; the number bounds how many parts there are. -/
def compareParts : Nat → List Char → List Char → Ordering
  | 0, _, _ | _, [], [] => .eq
  | fuel + 1, xs, ys =>
      match compareFront xs ys with
      | (.eq, xs, ys) =>
          match compareNumbers xs ys with
          | (.eq, xs, ys) => compareParts fuel xs ys
          | (found, _, _) => found
      | (found, _, _) => found

/-- Whether a text starts with a point and a letter or a tilde, and goes on with letters,
digits and tildes.
-/
def isEnding : List Char → Bool
  | '.' :: c :: cs => (c.isAlpha || c = '~') && cs.all fun c => c.isAlphanum || c = '~'
  | _ => false

/-- A name without the endings behind it. Its first character is no part of an ending. -/
def stemOf : List Char → List Char
  | [] => []
  | c :: cs =>
      let endings := (cs.splitOn '.').tail.map ('.' :: ·)
      let kept := (endings.reverse.dropWhile isEnding).reverse
      c :: (cs.takeWhile (· ≠ '.') ++ kept.flatten)

/-- The rank of names that come before all others. -/
def special (name : List Char) : Nat :=
  match name with
  | [] => 0
  | ['.'] => 1
  | ['.', '.'] => 2
  | '.' :: _ => 3
  | _ => 4

/-- The order of two names by their versions. -/
def compareNames (first second : List Char) : Ordering :=
  match compare (special first) (special second) with
  | .eq =>
      let size := first.length + second.length + 1
      match compareParts size (stemOf first) (stemOf second) with
      | .eq => compareParts size first second
      | found => found
  | found => found

end MailMerge.Shell.Version

import MailMerge.Files.Tree
import MailMerge.Shell.Expression

/-! Patterns of whole texts and of paths: a star for any text, a question mark for one
byte, and sets in brackets. Quoted signs stand for themselves.
-/

namespace MailMerge.Shell.Wildcard

/-- A byte, and whether quotes have taken its meaning off. -/
abbrev Glyph := Char × Bool

inductive Piece where
  | char (c : Char)
  | one
  | any
  | set (isNegated : Bool) (ranges : List (Char × Char))
  deriving Repr

/-- Reads the members of a set up to the closing bracket, none if there is none. -/
def members? : Nat → Bool → List Glyph → List (Char × Char)
    → Option (List (Char × Char) × List Glyph)
  | 0, _, _, _ => none
  | _ + 1, _, [], _ => none
  | fuel + 1, isFirst, (c, isQuoted) :: rest, found =>
      if c = ']' ∧ !isQuoted ∧ !isFirst then some (found, rest)
      else if c = '[' ∧ !isQuoted ∧ rest.head? = some (':', false) then
        let name := (rest.tail.takeWhile fun glyph => glyph.1 ≠ ':').map Prod.fst
        let behind := rest.tail.drop name.length
        match Expression.classes.lookup (String.ofList name), behind with
        | some ranges, (':', false) :: (']', false) :: behind =>
            members? fuel false behind (found ++ ranges)
        | _, _ => members? fuel false rest (found ++ [(c, c)])
      else
        let (low, rest) :=
          match c, isQuoted, rest with
          | '\\', false, (escaped, _) :: behind => (escaped, behind)
          | _, _, _ => (c, rest)
        match rest with
        | ('-', false) :: (high, isQuoted) :: behind =>
            if high = ']' ∧ !isQuoted then members? fuel false rest (found ++ [(low, low)])
            else members? fuel false behind (found ++ [(low, high)])
        | _ => members? fuel false rest (found ++ [(low, low)])

/-- Reads a pattern. -/
def readOnto : Nat → List Piece → List Glyph → List Piece
  | 0, done, _ => done.reverse
  | _ + 1, done, [] => done.reverse
  | fuel + 1, done, (c, true) :: rest => readOnto fuel (.char c :: done) rest
  | fuel + 1, done, ('*', false) :: rest => readOnto fuel (.any :: done) rest
  | fuel + 1, done, ('?', false) :: rest => readOnto fuel (.one :: done) rest
  | fuel + 1, done, ('\\', false) :: (c, _) :: rest => readOnto fuel (.char c :: done) rest
  | fuel + 1, done, ('[', false) :: rest =>
      let isNegated : Bool := rest.head? = some ('!', false)
      let inside := if isNegated then rest.tail else rest
      match members? (inside.length + 1) true inside [] with
      | some (ranges, rest) => readOnto fuel (.set isNegated ranges :: done) rest
      | none => readOnto fuel (.char '[' :: done) rest
  | fuel + 1, done, (c, false) :: rest => readOnto fuel (.char c :: done) rest

def read (glyphs : List Glyph) : List Piece :=
  readOnto (glyphs.length + 1) [] glyphs

def Piece.accepts (c : Char) : Piece → Bool
  | char d => c = d
  | one => true
  | any => true
  | set isNegated ranges =>
      (ranges.any fun range => range.1 ≤ c && c ≤ range.2) != isNegated

/-- Whether a pattern matches a whole text. -/
def accepts : List Piece → List Char → Bool
  | [], text => text.isEmpty
  | .any :: pieces, [] => accepts pieces []
  | .any :: pieces, c :: cs => accepts pieces (c :: cs) || accepts (.any :: pieces) cs
  | _ :: _, [] => false
  | piece :: pieces, c :: cs => piece.accepts c && accepts pieces cs
termination_by pieces text => pieces.length + text.length
decreasing_by all_goals simp only [List.length_cons]; omega

/-- Whether a name fits a pattern that is given as a plain text. A caret may negate a set. -/
def fits (pattern name : String) : Bool :=
  let glyphs : List Glyph := pattern.toList.map (·, false)
  let turned := glyphs.zipIdx.map fun (glyph, i) =>
    if 0 < i ∧ glyph.1 = '^' ∧ (glyphs[i - 1]?).any (·.1 = '[') then ('!', false) else glyph
  accepts (read turned) name.toList

/-- A text without the part at its start or end that a pattern matches. -/
def strip (isPrefix isLongest : Bool) (pieces : List Piece) (text : List Char) : List Char :=
  let sizes := List.range (text.length + 1)
  let sizes := if isPrefix = isLongest then sizes.reverse else sizes
  let fits (size : Nat) : Bool :=
    accepts pieces (if isPrefix then text.take size else text.drop size)
  match sizes.find? fits with
  | some size => if isPrefix then text.drop size else text.take size
  | none => text

/-! ### Paths -/

/-- Whether a text has signs that make it a pattern. -/
def isPattern (glyphs : List Glyph) : Bool :=
  glyphs.any fun glyph => !glyph.2 && (glyph.1 = '*' || glyph.1 = '?' || glyph.1 = '[')

/-- A text without the backslashes that take the meaning off signs. -/
def plainText : List Glyph → List Char
  | ('\\', false) :: (c, _) :: rest => c :: plainText rest
  | (c, _) :: rest => c :: plainText rest
  | [] => []

/-- The names on a path that may be patterns. -/
def splitPath (glyphs : List Glyph) : List (List Glyph) :=
  glyphs.splitOnP fun glyph => glyph.1 = '/'

/-- The paths behind some path that the names of a pattern lead to. -/
def pathsFrom (files : Files.Tree) (locate : String → String) (here : String)
    : List (List Glyph) → List String
  | [] => [here]
  | name :: names =>
      let separator := if names.isEmpty then "" else "/"
      if isPattern name then
        let pieces := read name
        let showsHidden : Bool := (plainText name).head? = some '.'
        let found := (files.list (locate (if here = "" then "." else here))).toOption.getD []
        let texts := found.map fun entry => spell entry.1
        let texts := if showsHidden then "." :: ".." :: texts else texts
        let fitting := texts.filter fun text =>
          (showsHidden || !text.startsWith ".") && accepts pieces text.toList
        (fitting.mergeSort fun x y => x ≤ y).flatMap fun text =>
          pathsFrom files locate (here ++ text ++ separator) names
      else
        let path := here ++ String.ofList (plainText name) ++ separator
        if path ≠ "" ∧ path ≠ "/" ∧ (files.statName (locate path)).toOption.isNone
            ∧ names.isEmpty then []
        else pathsFrom files locate path names

/-- The paths that a pattern leads to. -/
def paths (files : Files.Tree) (locate : String → String) (glyphs : List Glyph)
    : List String :=
  pathsFrom files locate "" (splitPath glyphs)

end MailMerge.Shell.Wildcard

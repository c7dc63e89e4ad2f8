import MailMerge.Proofs.Select.PatternMeaning

/-! Patterns as regular expressions. Each pattern has an anchored expression, and any engine
that does what the syntax of expressions says finds that expression in just the values that
the pattern accepts.
-/

namespace MailMerge.Select

-----------------------------------------------------------------------------------------
-- Regular expressions
-----------------------------------------------------------------------------------------

/-- What takes a single character. -/
inductive Atom where
  /-- Any character, but a newline only if an expression lets its dots take newlines. -/
  | any
  | exactly (c : Char)
  deriving DecidableEq, Repr

def Atom.takes (newlines : Bool) (c : Char) : Atom → Bool
  | any => newlines || c != '\n'
  | exactly c' => c == c'

/-- The symbols in the text of an expression. -/
inductive Symbol where
  | start
  | finish
  | atom (atom : Atom)
  | star
  deriving DecidableEq, Repr

/-- The parts of an expression, which take pieces of a text one behind the other. -/
inductive Part where
  /-- Nothing, at the start of the text. -/
  | start
  /-- Nothing, at the end of the text. -/
  | finish
  | once (atom : Atom)
  /-- Any number of characters, also none. -/
  | many (atom : Atom)
  deriving DecidableEq, Repr

/-- An expression without groups, choices, classes and counts. -/
structure Expression where
  newlines : Bool
  parts : List Part
  deriving DecidableEq, Repr

namespace Expression

/-- The symbol that a character is if no backslash stands in front of it. -/
def symbol? (c : Char) : Option Symbol :=
  match c with
  | '^' => some .start
  | '$' => some .finish
  | '.' => some (.atom .any)
  | '*' => some .star
  | c => if c ∈ metacharacters then none else some (.atom (.exactly c))

def symbols? : List Char → Option (List Symbol)
  | [] => some []
  | '\\' :: c :: cs =>
      if c ∈ metacharacters then (symbols? cs).map (.atom (.exactly c) :: ·) else none
  | c :: cs => (symbol? c).bind fun symbol => (symbols? cs).map (symbol :: ·)

/-- A star belongs to the character in front of it. -/
def parts? : List Symbol → Option (List Part)
  | [] => some []
  | .start :: symbols => (parts? symbols).map (.start :: ·)
  | .finish :: symbols => (parts? symbols).map (.finish :: ·)
  | .atom atom :: .star :: symbols => (parts? symbols).map (.many atom :: ·)
  | .atom atom :: symbols => (parts? symbols).map (.once atom :: ·)
  | .star :: _ => none

/-- Reads an expression. The flag `s` in front of it lets its dots take newlines. -/
def read? (text : String) : Option Expression :=
  match text.toList with
  | '(' :: '?' :: 's' :: ')' :: cs =>
      ((symbols? cs).bind parts?).map fun parts => { newlines := true, parts }
  | cs => ((symbols? cs).bind parts?).map fun parts => { newlines := false, parts }

end Expression

/-- Whether a part takes a piece that stands between two other pieces of a text. -/
def Part.Takes (newlines : Bool) (before piece after : List Char) : Part → Prop
  | start => piece = [] ∧ before = []
  | finish => piece = [] ∧ after = []
  | once atom => piece.length = 1 ∧ ∀ c ∈ piece, atom.takes newlines c = true
  | many atom => ∀ c ∈ piece, atom.takes newlines c = true

/-- Parts take a piece if it can be cut into pieces that each of them takes where it stands. -/
def Part.AllTake (newlines : Bool) (before piece after : List Char) : List Part → Prop
  | [] => piece = []
  | part :: parts =>
      ∃ first rest, first ++ rest = piece
        ∧ part.Takes newlines before first (rest ++ after)
        ∧ AllTake newlines (before ++ first) rest after parts

/-- An expression is found in a text if its parts take a piece of the text. -/
def Expression.Finds (expression : Expression) (text : List Char) : Prop :=
  ∃ before rest, before ++ rest = text ∧ ∃ piece after, piece ++ after = rest
    ∧ Part.AllTake expression.newlines before piece after expression.parts

theorem Part.takes_once_iff {newlines : Bool} {before piece after : List Char} {atom : Atom}
    : (once atom).Takes newlines before piece after
      ↔ ∃ c, atom.takes newlines c = true ∧ [c] = piece := by
  constructor
  · rintro ⟨hlength, htakes⟩
    obtain ⟨c, rfl⟩ := List.length_eq_one_iff.mp hlength
    exact ⟨c, htakes c (by simp), rfl⟩
  · rintro ⟨c, htakes, rfl⟩
    exact ⟨rfl, by simpa using htakes⟩

/-- The ways to cut a text in two can be tried one by one. -/
instance decidableExistsCut (text : List Char) (property : List Char → List Char → Prop)
    [∀ first rest, Decidable (property first rest)]
    : Decidable (∃ first rest, first ++ rest = text ∧ property first rest) :=
  decidable_of_iff
    (∃ n : Fin (text.length + 1), property (text.take n) (text.drop n)) (by
      constructor
      · rintro ⟨n, holds⟩
        exact ⟨_, _, List.take_append_drop .., holds⟩
      · rintro ⟨first, rest, rfl, holds⟩
        have within : first.length < (first ++ rest).length + 1 := by
          rw [List.length_append]
          omega
        exact ⟨⟨first.length, within⟩, by simpa using holds⟩)

instance (newlines : Bool) (before piece after : List Char)
    : (part : Part) → Decidable (part.Takes newlines before piece after)
  | .start => inferInstanceAs (Decidable (piece = [] ∧ before = []))
  | .finish => inferInstanceAs (Decidable (piece = [] ∧ after = []))
  | .once atom => inferInstanceAs
      (Decidable (piece.length = 1 ∧ ∀ c ∈ piece, atom.takes newlines c = true))
  | .many atom => inferInstanceAs
      (Decidable (∀ c ∈ piece, atom.takes newlines c = true))

instance Part.decidableAllTake (newlines : Bool) (before piece after : List Char)
    : (parts : List Part) → Decidable (Part.AllTake newlines before piece after parts)
  | [] => inferInstanceAs (Decidable (piece = []))
  | part :: parts =>
      have := fun before piece => decidableAllTake newlines before piece after parts
      inferInstanceAs (Decidable (∃ first rest, first ++ rest = piece
        ∧ part.Takes newlines before first (rest ++ after)
        ∧ Part.AllTake newlines (before ++ first) rest after parts))

instance (expression : Expression) (text : List Char)
    : Decidable (expression.Finds text) :=
  inferInstanceAs (Decidable (∃ before rest, before ++ rest = text
    ∧ ∃ piece after, piece ++ after = rest
      ∧ Part.AllTake expression.newlines before piece after expression.parts))

-----------------------------------------------------------------------------------------
-- The expression of a pattern
-----------------------------------------------------------------------------------------

open Wildcard

namespace Wildcard

def symbols : Wildcard → List Symbol
  | run => [.atom .any, .star]
  | one => [.atom .any]
  | exactly c => [.atom (.exactly c)]

def part : Wildcard → Part
  | run => .many .any
  | one => .once .any
  | exactly c => .once (.exactly c)

/-- A part takes what its step takes, wherever the piece stands. -/
theorem takes_part_iff {step : Wildcard} {before piece after : List Char}
    : step.part.Takes true before piece after ↔ Takes step piece := by
  cases step with
  | run => exact iff_of_true (by simp [part, Part.Takes, Atom.takes]) (.run piece)
  | one =>
      have single : one ≠ run := by simp
      exact Part.takes_once_iff.trans (takes_iff single).symm
  | exactly c =>
      have single : exactly c ≠ run := by simp
      exact Part.takes_once_iff.trans (takes_iff single).symm

/-- The parts for steps and the end of a text take all that is left of it, by induction on the
steps.
-/
theorem allTake_parts_iff {steps : List Wildcard} {before piece after : List Char}
    : Part.AllTake true before piece after (steps.map part ++ [.finish])
      ↔ Cover steps piece ∧ after = [] := by
  induction steps generalizing before piece with
  | nil => simp [Part.AllTake, Part.Takes]
  | cons step steps ih =>
      simp only [List.map_cons, List.cons_append, Part.AllTake, takes_part_iff, ih,
        cover_cons_iff]
      constructor
      · rintro ⟨first, rest, hcut, head, tail, rfl⟩
        exact ⟨⟨first, rest, head, tail, hcut⟩, rfl⟩
      · rintro ⟨⟨first, rest, head, tail, hcut⟩, rfl⟩
        exact ⟨first, rest, hcut, head, tail, rfl⟩

end Wildcard

namespace Expression

theorem symbol?_eq {c : Char} (plain : c ∉ metacharacters)
    : symbol? c = some (.atom (.exactly c)) := by
  unfold symbol?
  split <;> simp_all [metacharacters]

theorem symbols?_cons {c : Char} (backslash : c ≠ '\\') (cs : List Char)
    : symbols? (c :: cs)
      = (symbol? c).bind fun symbol => (symbols? cs).map (symbol :: ·) := by
  rw [symbols?]
  exact fun _ _ h _ => backslash h

/-- An escaped character is read as itself, whether it needs the backslash or not. -/
theorem symbols?_escape {c : Char} {cs : List Char} {symbols : List Symbol}
    (h : symbols? cs = some symbols)
    : symbols? (escape c ++ cs) = some (.atom (.exactly c) :: symbols) := by
  unfold escape
  split
  · rename_i special
    simp [symbols?, special, h]
  · rename_i plain
    have backslash : c ≠ '\\' := by
      rintro rfl
      simp [metacharacters] at plain
    simp [symbols?_cons backslash, symbol?_eq plain, h]

theorem parts?_once {atom : Atom} {symbols : List Symbol} {parts : List Part}
    (h : parts? symbols = some parts)
    : parts? (.atom atom :: symbols) = some (.once atom :: parts) := by
  rw [parts?, h]
  · rfl
  · rintro tail rfl
    simp [parts?] at h

/-- The symbols of steps are read as their parts, by induction on the steps. -/
theorem parts?_steps {symbols : List Symbol} {parts : List Part}
    (h : parts? symbols = some parts) (steps : List Wildcard)
    : parts? (steps.flatMap Wildcard.symbols ++ symbols)
      = some (steps.map Wildcard.part ++ parts) := by
  induction steps with
  | nil => exact h
  | cons step steps ih =>
      cases step with
      | run => simp [Wildcard.symbols, Wildcard.part, parts?, ih]
      | one => exact parts?_once ih
      | exactly c => exact parts?_once ih

/-- The expression written for a text is read as its steps, by the recursion of the writer. -/
theorem symbols?_translate {cs : List Char} {symbols : List Symbol}
    (h : symbols? cs = some symbols) (text : List Char)
    : symbols? (Pattern.translate text ++ cs)
      = some ((ofChars text).flatMap Wildcard.symbols ++ symbols) := by
  fun_induction Pattern.translate text with
  | case1 => simpa [ofChars] using h
  | case2 => simpa [ofChars, Wildcard.symbols] using symbols?_escape h
  | case3 c text ih =>
      simpa [ofChars, Wildcard.symbols] using symbols?_escape ih
  | case4 c text lone next ih =>
      rw [ofChars]
      · simp only [List.append_assoc, List.flatMap_cons]
        split
        · simp [Wildcard.symbols, symbols?_cons, symbol?, ih]
        · split
          · simp [Wildcard.symbols, symbols?_cons, symbol?, ih]
          · exact symbols?_escape ih
      · exact lone
      · exact next

theorem read?_expression (text : String)
    : read? (Pattern.expression text)
      = some {
          newlines := true
          parts := .start :: ((ofChars text.toList).map Wildcard.part ++ [.finish])
        } := by
  have finish : symbols? ['$'] = some [.finish] := rfl
  have hparts : parts? [.finish] = some [.finish] := rfl
  simp [read?, Pattern.expression, symbols?_cons, symbol?, parts?,
    symbols?_translate finish, parts?_steps hparts]

theorem finds_iff_cover {steps : List Wildcard} {text : List Char}
    : Finds { newlines := true, parts := .start :: (steps.map Wildcard.part ++ [.finish]) } text
      ↔ Cover steps text := by
  simp [Finds, Part.AllTake, Part.Takes, allTake_parts_iff]

end Expression


-----------------------------------------------------------------------------------------
-- What a pattern accepts
-----------------------------------------------------------------------------------------

/-- An engine for expressions, which may reject one. -/
abbrev Engine := String → Option (String → Bool)

/-- On the expressions that it does not reject, an engine answers as their syntax says. -/
def Engine.Documented (engine : Engine) : Prop :=
  ∀ text expression, Expression.read? text = some expression →
    ∀ test, engine text = some test →
      ∀ value, test value = true ↔ expression.Finds value.toList

/-- An engine that tries all ways to cut a value. -/
def Engine.trying : Engine := fun text =>
  (Expression.read? text).map fun expression value => expression.Finds value.toList

theorem Engine.trying_documented : trying.Documented := by
  intro text expression hread test htest value
  obtain rfl := by simpa [trying, hread] using htest
  simp

/-- A pattern that is compiled is the one that its text is read as, whatever the limits. -/
theorem Pattern.eq_read_of_compile {limits : Limits} {text : String} {pattern : Pattern}
    (compiled : compile limits text = .ok pattern)
    : pattern = read text := by
  unfold compile at compiled
  split at compiled <;> cases compiled
  rfl

/-- The text of a pattern has a reading that a value can be cut along. -/
def Pattern.Means (text value : String) : Prop :=
  ∃ steps, Reads text.toList steps ∧ Cover steps value.toList

theorem Pattern.means_iff {text value : String}
    : Means text value ↔ Cover (ofChars text.toList) value.toList := by
  simp [Means, reads_iff_ofChars_eq]

/-- A pattern accepts the values that its text means, and no others, and so does its
expression in every engine that follows the syntax.
-/
theorem accepts_iff_means (text : String)
    : (∀ limits pattern, Pattern.compile limits text = .ok pattern →
        ∀ value, pattern.accepts value = true ↔ Pattern.Means text value)
      ∧ (∀ engine : Engine, engine.Documented →
        ∀ test, engine (Pattern.expression text) = some test →
          ∀ value, test value = true ↔ Pattern.Means text value) := by
  constructor
  · intro limits pattern compiled value
    obtain rfl := Pattern.eq_read_of_compile compiled
    rw [Pattern.accepts, Pattern.covers_iff, Pattern.means_iff]
    rfl
  · intro engine documented test htest value
    rw [documented _ _ (Expression.read?_expression text) test htest,
      Expression.finds_iff_cover, Pattern.means_iff]

/-- A pattern with both wildcards, an escaped one and a backslash at the end, on a value over
two lines and on one that has another character for the dot.
-/
theorem accepts_iff_means_escaped
    : let limits : Limits := { refusal? := fun _ => none }
      ∃ pattern test, Pattern.compile limits "a.%\\%_\\" = .ok pattern
      ∧ Engine.trying.Documented
      ∧ Engine.trying (Pattern.expression "a.%\\%_\\") = some test
      ∧ Pattern.Means "a.%\\%_\\" "a.\n(b%é\\" ∧ test "a.\n(b%é\\" = true
      ∧ ¬ Pattern.Means "a.%\\%_\\" "ab%é\\" ∧ test "ab%é\\" = false := by
  intro limits
  have compiled : Pattern.compile limits "a.%\\%_\\" = .ok {
      text := "a.%\\%_\\"
      steps := [.exactly 'a', .exactly '.', .run, .exactly '%', .one, .exactly '\\']
    } := by rfl
  obtain ⟨test, htest⟩ : ∃ test, Engine.trying (Pattern.expression "a.%\\%_\\") = some test :=
    ⟨_, by rw [Engine.trying, Expression.read?_expression]; rfl⟩
  obtain ⟨byPattern, byEngine⟩ := accepts_iff_means "a.%\\%_\\"
  have accepted := byPattern _ _ compiled
  have found := byEngine _ Engine.trying_documented test htest
  have means : Pattern.Means "a.%\\%_\\" "a.\n(b%é\\" := (accepted _).mp (by decide)
  have means_not : ¬ Pattern.Means "a.%\\%_\\" "ab%é\\" := by
    rw [← accepted]
    decide
  refine ⟨_, test, compiled, Engine.trying_documented, htest, means, (found _).mpr means,
    means_not, ?_⟩
  rw [← Bool.not_eq_true, found]
  exact means_not

end MailMerge.Select

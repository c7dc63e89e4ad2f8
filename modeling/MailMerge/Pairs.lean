/-! Lists of named values, in the order in which the names came first. -/

namespace MailMerge.Pairs

variable {α : Type}

/-- Gives a name its value: a known name keeps its place, a new one goes to the end. -/
def assign {κ : Type} [DecidableEq κ] (name : κ) (value : α)
    : List (κ × α) → List (κ × α)
  | [] => [(name, value)]
  | pair :: pairs =>
      if pair.1 = name then (name, value) :: pairs else pair :: assign name value pairs

/-- The pairs with each name once, at its first place and with its last value. -/
def merge (pairs : List (String × α)) : List (String × α) :=
  pairs.foldl (fun merged pair => assign pair.1 pair.2 merged) []

/-- A name answers with the value that it was given. -/
theorem lookup_assign (name : String) (value : α) (pairs : List (String × α))
    : (assign name value pairs).lookup name = some value := by
  induction pairs with
  | nil => simp [assign]
  | cons pair pairs ih =>
      obtain ⟨other, old⟩ := pair
      by_cases h : other = name
      · simp [assign, h]
      · have hne : (name == other) = false := by simpa using Ne.symm h
        simpa [assign, h, List.lookup_cons, hne] using ih

end MailMerge.Pairs

import MailMerge.Options.Basic

/-! Layers of options. Overlay is associative, with the empty options as its unit, and layers
laid over each other name the recipients that the first of them names that names any.
-/

namespace MailMerge.Options

-----------------------------------------------------------------------------------------
-- Single settings
-----------------------------------------------------------------------------------------

section

variable {α : Type}

theorem pick_assoc (upper middle lower : Option α)
    : ((upper <|> middle) <|> lower) = (upper <|> (middle <|> lower)) := by
  simp only [Option.orElse_eq_orElse, Option.orElse_eq_or, Option.or_assoc]

@[simp]
theorem pickList_nil_right (upper : List α) : pickList upper [] = upper := by
  cases upper <;> rfl

@[simp]
theorem pickList_self (list : List α) : pickList list list = list := by
  cases list <;> rfl

theorem pickList_assoc (upper middle lower : List α)
    : pickList (pickList upper middle) lower = pickList upper (pickList middle lower) := by
  cases upper <;> rfl

end

-----------------------------------------------------------------------------------------
-- Recipients
-----------------------------------------------------------------------------------------

theorem namesRecipients_eq_false_iff {options : Options}
    : options.namesRecipients = false
      ↔ options.addresses = [] ∧ options.addressColumn = none := by
  simp [namesRecipients]

/-- Recipients are missing just from options that name none. -/
theorem recipients_eq_missing_iff {options : Options}
    : options.recipients = .error .missingRecipients ↔ options.namesRecipients = false := by
  unfold recipients namesRecipients
  cases options.addresses <;> cases options.addressColumn <;> simp

/-- Options with the same addresses and the same column name the same recipients. -/
theorem recipients_congr {one other : Options} (addresses : one.addresses = other.addresses)
    (addressColumn : one.addressColumn = other.addressColumn)
    : one.recipients = other.recipients := by
  unfold recipients
  rw [addresses, addressColumn]

/-- The upper options decide on both kinds of recipients if they name either. -/
theorem overlay_of_names {upper : Options} (names : upper.namesRecipients = true)
    (lower : Options)
    : (upper.overlay lower).addresses = upper.addresses
      ∧ (upper.overlay lower).addressColumn = upper.addressColumn := by
  simp [overlay, names]

theorem overlay_of_names_none {upper : Options} (names : upper.namesRecipients = false)
    (lower : Options)
    : (upper.overlay lower).addresses = lower.addresses
      ∧ (upper.overlay lower).addressColumn = lower.addressColumn := by
  simp [overlay, names]

theorem recipients_overlay_of_names {upper : Options}
    (names : upper.namesRecipients = true) (lower : Options)
    : (upper.overlay lower).recipients = upper.recipients :=
  recipients_congr (overlay_of_names names lower).1 (overlay_of_names names lower).2

theorem recipients_overlay_of_names_none {upper : Options}
    (names : upper.namesRecipients = false) (lower : Options)
    : (upper.overlay lower).recipients = lower.recipients :=
  recipients_congr (overlay_of_names_none names lower).1 (overlay_of_names_none names lower).2

theorem namesRecipients_overlay (upper lower : Options)
    : (upper.overlay lower).namesRecipients
      = (upper.namesRecipients || lower.namesRecipients) := by
  cases names : upper.namesRecipients with
  | true =>
      obtain ⟨addresses, addressColumn⟩ := overlay_of_names names lower
      rw [namesRecipients, addresses, addressColumn, ← namesRecipients, names, Bool.true_or]
  | false =>
      obtain ⟨addresses, addressColumn⟩ := overlay_of_names_none names lower
      rw [namesRecipients, addresses, addressColumn, ← namesRecipients, Bool.false_or]

-----------------------------------------------------------------------------------------
-- Layers
-----------------------------------------------------------------------------------------

attribute [ext] Options

/-- The recipients travel together, so the layers are told apart by which of them names any;
every other setting goes its own way.
-/
theorem overlay_assoc (upper middle lower : Options)
    : (upper.overlay middle).overlay lower = upper.overlay (middle.overlay lower) := by
  have names := namesRecipients_overlay upper middle
  apply Options.ext
  case addresses | addressColumn =>
    cases hupper : upper.namesRecipients with
    | true =>
        rw [hupper, Bool.true_or] at names
        simp only [overlay_of_names names, overlay_of_names hupper]
    | false =>
        rw [hupper, Bool.false_or] at names
        cases hmiddle : middle.namesRecipients with
        | true =>
            rw [hmiddle] at names
            simp only [overlay_of_names names, overlay_of_names hmiddle,
              overlay_of_names_none hupper]
        | false =>
            rw [hmiddle] at names
            simp only [overlay_of_names_none names, overlay_of_names_none hmiddle,
              overlay_of_names_none hupper]
  case patterns | negations | sortBy | reversals | shown => exact pickList_assoc _ _ _
  case dryRun | verbose | debug => exact Bool.or_assoc _ _ _
  all_goals exact pick_assoc _ _ _

theorem empty_overlay (options : Options) : empty.overlay options = options := by
  apply Options.ext <;> rfl

theorem overlay_empty (options : Options) : options.overlay empty = options := by
  apply Options.ext
  case addresses | addressColumn =>
    cases names : options.namesRecipients with
    | true => simp only [overlay_of_names names]
    | false =>
        obtain ⟨addresses, addressColumn⟩ := namesRecipients_eq_false_iff.mp names
        simp only [overlay_of_names_none names, addresses, addressColumn, empty]
  case patterns | negations | sortBy | reversals | shown => exact pickList_nil_right _
  case dryRun | verbose | debug => exact Bool.or_false _
  all_goals simp [overlay, empty]

theorem overlay_self (options : Options) : options.overlay options = options := by
  apply Options.ext
  case addresses | addressColumn => exact ite_self _
  case patterns | negations | sortBy | reversals | shown => exact pickList_self _
  case dryRun | verbose | debug => exact Bool.or_self _
  all_goals simp [overlay]

/-- Layers laid over each other, the first of them on top. -/
def stack (layers : List Options) : Options :=
  layers.foldr overlay empty

/-- The first layer that names any recipients decides on them, by induction on the layers. -/
theorem recipients_stack (layers : List Options)
    : (stack layers).recipients
      = (layers.find? namesRecipients).elim (.error .missingRecipients) recipients := by
  induction layers with
  | nil => rfl
  | cons layer layers ih =>
      rw [List.find?_cons]
      cases names : layer.namesRecipients with
      | true => exact recipients_overlay_of_names names _
      | false => exact (recipients_overlay_of_names_none names _).trans ih

/-- Options over others have the recipients of the upper ones, unless those name none. -/
theorem recipients_overlay (upper lower : Options)
    : (upper.overlay lower).recipients
      = match upper.recipients with
        | .error .missingRecipients => lower.recipients
        | named => named := by
  cases names : upper.namesRecipients with
  | true =>
      rw [recipients_overlay_of_names names]
      split
      · rename_i missing
        rw [recipients_eq_missing_iff.mp missing] at names
        cases names
      · rfl
  | false =>
      rw [recipients_overlay_of_names_none names, recipients_eq_missing_iff.mpr names]

/-- Overlay is associative and idempotent with the empty options as its unit, and takes the
recipients from the first layer that names any. So two layers with recipients of one kind each
do not come into conflict, whatever the kinds.
-/
theorem overlay_monoid (upper middle lower : Options) (layers : List Options)
    : (upper.overlay middle).overlay lower = upper.overlay (middle.overlay lower)
      ∧ empty.overlay upper = upper
      ∧ upper.overlay empty = upper
      ∧ upper.overlay upper = upper
      ∧ (upper.overlay lower).recipients
        = (match upper.recipients with
          | .error .missingRecipients => lower.recipients
          | named => named)
      ∧ (stack layers).recipients
        = (layers.find? namesRecipients).elim (.error .missingRecipients) recipients
      ∧ ∀ above below : Recipients,
          upper.recipients = .ok above
          → lower.recipients = .ok below
          → (upper.overlay lower).recipients = .ok above := by
  refine ⟨overlay_assoc upper middle lower, empty_overlay upper, overlay_empty upper,
    overlay_self upper, recipients_overlay upper lower, recipients_stack layers, ?_⟩
  intro above below habove hbelow
  rw [recipients_overlay, habove]

/-- Addresses over a column: both layers are fine by themselves, and the addresses win. -/
theorem overlay_monoid_both_kinds
    : let upper := { empty with addresses := ["ada@example.com"] }
      let lower := { empty with addressColumn := some "email", dryRun := true }
      upper.recipients = .ok (.broadcast ["ada@example.com"])
      ∧ lower.recipients = .ok (.column "email")
      ∧ (upper.overlay lower).recipients = .ok (.broadcast ["ada@example.com"]) := by
  intro upper lower
  have named : upper.recipients = .ok (.broadcast ["ada@example.com"]) := rfl
  have namedBelow : lower.recipients = .ok (.column "email") := rfl
  obtain ⟨-, -, -, -, -, -, taken⟩ := overlay_monoid upper empty lower [upper, lower]
  exact ⟨named, namedBelow, taken _ _ named namedBelow⟩

end MailMerge.Options

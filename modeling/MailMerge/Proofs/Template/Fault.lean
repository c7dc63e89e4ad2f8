import MailMerge.Proofs.Template.Printing

/-! Text that is no template. What stands in front of a fault is read for good, so a stray
separator stays an error whatever text follows. A conditional without an end is unfinished
only: closing braces behind the text end it, and as many as the text has opening braces are
enough.
-/

namespace MailMerge.Template

open MailMerge.Text

-----------------------------------------------------------------------------------------
-- Text in front
-----------------------------------------------------------------------------------------

/-- Text reads as the same segments when other text stands behind it that spares what is
plain, by induction on the reading.
-/
theorem Reads.exchange {place : Place} {cs rest : List Char} {segments : List Segment}
    (reads : Reads place cs segments rest)
    : ∀ {other}, Spares place rest other → Reads place cs segments other := by
  induction reads with
  | nil => exact fun _ => .nil
  | @text _ c cs _ _ plain _ ih =>
      intro other spares
      have hplain : Plain _ (c :: (cs ++ other)) := spares (c :: cs) (by simp) plain
      exact .text hplain (ih spares)
  | value named _ ih => exact fun spares => .value named (ih spares)
  | bracket named _ ih => exact fun spares => .bracket named (ih spares)
  | single named lead _ _ ihInner ihTail =>
      exact fun spares => .single named lead (ihInner .close) (ihTail spares)
  | double named lead _ _ _ ihInner ihInner' ihTail =>
      exact fun spares => .double named lead (ihInner .separator) (ihInner' .close) (ihTail spares)

/-- From the top, `front` adds segments to what the text behind it compiles to, and leaves an
error there as it is.
-/
def Adds (front rest : List Char) : Prop :=
  ∃ add, ∀ offset,
    compileText .top offset (front ++ rest)
      = (compileText .top (offset + width front) rest).map add

theorem Adds.nil {rest : List Char} : Adds [] rest :=
  ⟨id, fun _ => (congrFun Except.map_id _).symm⟩

theorem Adds.append {front back rest : List Char} (hfront : Adds front (back ++ rest))
    (hback : Adds back rest)
    : Adds (front ++ back) rest := by
  obtain ⟨first, hfirst⟩ := hfront
  obtain ⟨second, hsecond⟩ := hback
  refine ⟨first ∘ second, fun offset => ?_⟩
  rw [List.append_assoc, hfirst, hsecond, width_append, Nat.add_assoc]
  exact Outcome.map_map ..

theorem Adds.plain {c : Char} {rest : List Char} (plain : Plain .top (c :: rest))
    : Adds [c] rest :=
  ⟨_, fun _ => compileText_text (Mark.read_of_plain plain)⟩

theorem Adds.value {name rest : List Char} (named : IsName name)
    : Adds ('{' :: '$' :: (name ++ ['}'])) rest := by
  refine ⟨(.value (String.ofList name) :: ·), fun offset => ?_⟩
  have hwidth : width ('{' :: '$' :: (name ++ ['}'])) = name.length + 3 := width_value named []
  have hmark : Mark.read .top '{' ('$' :: (name ++ '}' :: rest)) = .value name rest :=
    Mark.read_value named
  rw [hwidth, ← Nat.add_assoc, ← compileText_value hmark]
  simp

theorem Adds.conditional {name blank rest : List Char} {body : Body} {shown : List Segment}
    {otherwise : Option (List Segment)} (named : IsName name) (lead : Lead blank body.text)
    (inner : body.Compiles shown otherwise)
    : Adds ('{' :: '?' :: (name ++ (blank ++ body.text))) rest := by
  refine ⟨(.conditional (String.ofList name) shown otherwise :: ·), fun offset => ?_⟩
  have hlead : Lead blank (body.text ++ rest) := lead.congr (body.head?_text_append rest).symm
  have hmark : Mark.read .top '{' ('?' :: (name ++ (blank ++ (body.text ++ rest)))) = _ :=
    Mark.read_conditional named hlead (inner.cut rest)
  have hopening := @compileText_conditional .top offset _ _ _ _ _ _ _ hmark inner.shown
    inner.otherwise
  rw [width_opening named lead, ← Nat.add_assoc]
  simpa using hopening

/-- Whatever reads as segments adds segments, by induction on the reading. -/
theorem Reads.adds {cs rest : List Char} {segments : List Segment}
    (reads : Reads .top cs segments rest)
    : Adds cs rest := by
  generalize hplace : Place.top = place at reads
  induction reads with
  | nil => exact .nil
  | text plain _ ih =>
      subst hplace
      exact .append (.plain plain) (ih rfl)
  | value named _ ih =>
      have adds := Adds.append (.value named) (ih hplace)
      simpa using adds
  | bracket => cases hplace
  | @single _ _ _ first _ _ _ _ named lead inner _ _ ihTail =>
      have compiles := Body.Compiles.single inner.compiles []
      have hlead : Lead _ (Body.text ⟨first, none, []⟩) := lead.congr (by simp [Body.text])
      have adds := Adds.append (.conditional named hlead compiles) (ihTail hplace)
      simpa [Body.text] using adds
  | @double _ _ _ first _ second _ _ _ _ named lead inner inner' _ _ _ ihTail =>
      have compiles := Body.Compiles.double inner.compiles inner'.compiles []
      have hlead : Lead _ (Body.text ⟨first, some second, []⟩) :=
        lead.congr (by cases first <;> simp [Body.text])
      have adds := Adds.append (.conditional named hlead compiles) (ihTail hplace)
      simpa [Body.text] using adds

-----------------------------------------------------------------------------------------
-- Faults
-----------------------------------------------------------------------------------------

/-- `Fault behind offset e` says that a fault stands at the head of `behind`, at an offset of
the whole text: a separator, or a conditional whose body has no end.
-/
inductive Fault : List Char → Nat → MarkupError → Prop
  | strayElse {behind offset} : Fault ('!' :: '!' :: behind) offset (.strayElse offset)
  | unclosed {name blank after offset} (named : IsName name) (lead : Lead blank after)
    (endless : Body.cut? 0 false after = none)
    : Fault ('{' :: '?' :: (name ++ (blank ++ after))) offset
        (.unclosed (String.ofList name) offset)

/-- A fault is an error where it stands. -/
theorem Fault.compileText {behind : List Char} {offset : Nat} {e : MarkupError}
    (fault : Fault behind offset e)
    : compileText .top offset behind = .error e := by
  cases fault with
  | strayElse => exact compileText_strayElse Mark.read_separator
  | unclosed named lead endless =>
      exact compileText_unclosed (Mark.read_unclosed named lead endless)

/-- Where the reader stops with an error, all text in front was read and a fault stands, by
the recursion of the reader.
-/
theorem Descent.fault_of_items {size : Nat} {cs : List Char} {e : MarkupError}
    (h : items size cs = .error e)
    : ∃ front segments behind,
        cs = front ++ behind
        ∧ Reads .top front segments behind
        ∧ Fault behind (size - width behind) e := by
  fun_induction items size cs with
  | case1 => cases h
  | case2 c cs hitem ih =>
      have heads := Item.heads_of_read hitem
      obtain ⟨front, _, behind, rfl, reads, fault⟩ := ih (Outcome.map_eq_error_iff.mp h)
      exact ⟨c :: front, _, behind, rfl, .text heads reads, fault⟩
  | case3 c cs rest shorter hitem =>
      have heads := Item.heads_of_read hitem
      exact (heads.1 rfl).elim
  | case4 c cs name rest shorter hitem ih =>
      have heads := Item.heads_of_read hitem
      obtain ⟨front, _, behind, rfl, reads, fault⟩ := ih (Outcome.map_eq_error_iff.mp h)
      obtain ⟨named, hcs | ⟨hplace, -⟩⟩ := heads
      · exact ⟨_, _, behind, by simpa using hcs, .value named reads, fault⟩
      · exact (hplace rfl).elim
  | case5 c cs name rest shorter hitem hinner =>
      have heads := Item.heads_of_read hitem
      obtain ⟨named, blank, lead, hcs⟩ := heads
      cases h
      rw [hcs]
      exact ⟨[], [], _, rfl, .nil, .unclosed named lead (cut?_eq_none_of_conditional? rest hinner)⟩
  | case6 c cs name rest shorter hitem inner hinner ih =>
      have heads := Item.heads_of_read hitem
      obtain ⟨named, blank, lead, hcs⟩ := heads
      obtain ⟨body, hbody, readsBody⟩ := reads_of_conditional? rest hinner
      obtain ⟨front, _, behind, hrest, reads, fault⟩ := ih (Outcome.map_eq_error_iff.mp h)
      rw [hrest] at hbody readsBody
      rw [hbody] at lead hcs
      exact ⟨_, _, behind, by simpa using hcs, .conditional named lead readsBody reads, fault⟩
  | case7 c cs rest shorter hitem =>
      have heads := Item.heads_of_read hitem
      obtain ⟨-, hcs⟩ := heads
      cases h
      rw [hcs]
      exact ⟨[], [], _, rfl, .nil, .strayElse⟩

/-- A text is no template just when a fault stands behind text that reads as segments. -/
theorem compile_eq_error_iff {raw : String} {e : MarkupError}
    : compile raw = .error e
      ↔ ∃ front segments behind,
          raw.toList = front ++ behind
          ∧ Reads .top front segments behind
          ∧ Fault behind (width front) e := by
  constructor
  · intro h
    rw [compile_eq_read, Descent.read, Outcome.map_eq_error_iff] at h
    obtain ⟨front, segments, behind, hraw, reads, fault⟩ := Descent.fault_of_items h
    have hwidth : width raw.toList - width behind = width front := by
      rw [hraw, width_append, Nat.add_sub_cancel]
    exact ⟨front, segments, behind, hraw, reads, hwidth ▸ fault⟩
  · rintro ⟨front, segments, behind, hraw, reads, fault⟩
    obtain ⟨add, h⟩ := reads.adds
    rw [compile, hraw, h, Nat.zero_add, fault.compileText]
    rfl

-----------------------------------------------------------------------------------------
-- Closing braces behind a text
-----------------------------------------------------------------------------------------

/-- As many closing braces as asked for. -/
def braces (count : Nat) : List Char :=
  List.replicate count '}'

/-- A closing brace behind a text completes a reference only where the text is one but for
that brace.
-/
theorem reference?_append_braces {cs : List Char} (h : reference? '}' cs = none) (count : Nat)
    : reference? '}' (cs ++ braces count) = none ∨ ∃ name, IsName name ∧ cs = '$' :: name := by
  cases hfound : reference? '}' (cs ++ braces count) with
  | none => exact .inl rfl
  | some found =>
      obtain ⟨name, rest⟩ := found
      obtain ⟨named, hspelled⟩ := (reference?_eq_some_iff (by decide)).mp hfound
      refine .inr ⟨name, named, ?_⟩
      rw [← List.cons_append] at hspelled
      rcases List.append_eq_append_iff.mp hspelled with
        ⟨more, hname, hbraces⟩ | ⟨more, hcs, hmore⟩
      · -- A name holds no brace, so none of the braces belongs to it.
        cases more with
        | nil => simpa using hname.symm
        | cons c more =>
            have hc : c = '}' := List.eq_of_mem_replicate (hbraces ▸ by simp : c ∈ braces count)
            have hmem : c ∈ '$' :: name := hname ▸ by simp
            subst hc
            exact absurd hmem (by simpa using Body.brace_not_mem_name named)
      · cases more with
        | nil => simpa using hcs
        | cons c more =>
            obtain ⟨rfl, -⟩ := List.cons.inj hmore
            rw [hcs, List.cons_append, reference?_brace named] at h
            cases h

/-- A closing brace starts no name, so braces behind a text complete no opening. -/
theorem opening?_append_braces (cs : List Char) (count : Nat)
    : (opening? (cs ++ braces count)).isSome = (opening? cs).isSome := by
  have hnone : opening? (cs ++ braces count) = none ↔ opening? cs = none := by
    simp only [opening?_eq_none_iff]
    refine forall₂_congr fun c letter => not_congr ⟨fun hprefix => ?_, fun hprefix => ?_⟩
    · have hbrace : c ≠ '}' := by
        rintro rfl
        revert letter
        decide
      rcases cs with _ | ⟨q, _ | ⟨d, cs⟩⟩
      · cases count <;> simp [braces, List.replicate_succ] at hprefix
      · cases count <;> simp [braces, List.replicate_succ, hbrace] at hprefix
      · simpa using hprefix
    · exact hprefix.trans (List.prefix_append ..)
  rw [Bool.eq_iff_iff, Option.isSome_iff_ne_none, Option.isSome_iff_ne_none]
  exact not_congr hnone

theorem Lead.append_braces {blank after : List Char} (lead : Lead blank after) (count : Nat)
    : Lead blank (after ++ braces count) := by
  have hhead (c : Char) (h : c ∈ (after ++ braces count).head?) : c ∈ after.head? ∨ c = '}' := by
    cases after with
    | nil => exact .inr (List.eq_of_mem_replicate (List.mem_of_mem_head? h))
    | cons d after => exact .inl h
  cases lead with
  | none named unblank =>
      refine .none (fun c h => ?_) (fun c h => ?_)
      · rcases hhead c h with h | rfl
        · exact named c h
        · decide
      · rcases hhead c h with h | rfl
        · exact unblank c h
        · decide
  | one blank => exact .one blank

namespace Body

/-- A cut ends, and nothing but closing braces is left behind it. -/
def Closes (depth : Nat) (divided : Bool) (cs : List Char) : Prop :=
  ∃ body count, cut? depth divided cs = some body ∧ body.rest = braces count

theorem Closes.of_map {depth inside : Nat} {divided divided' : Bool} {cs rest : List Char}
    {f : Body → Body} (step : cut? depth divided cs = (cut? inside divided' rest).map f)
    (same : ∀ body, (f body).rest = body.rest) (h : Closes inside divided' rest)
    : Closes depth divided cs := by
  obtain ⟨body, count, hbody, hrest⟩ := h
  exact ⟨f body, count, by rw [step, hbody, Option.map_some], (same body).trans hrest⟩

/-- More braces than open conditionals close all of these, by induction on the depth. -/
theorem closes_braces {depth count : Nat} (enough : depth < count) (divided : Bool)
    : Closes depth divided (braces count) := by
  induction depth generalizing count with
  | zero =>
      obtain ⟨count, rfl⟩ := Nat.exists_eq_add_one.mpr enough
      exact ⟨_, count, cut?_close_zero, rfl⟩
  | succ depth ih =>
      obtain ⟨count, rfl⟩ := Nat.exists_eq_add_one.mpr (Nat.zero_lt_of_lt enough)
      exact .of_map cut?_close_succ (fun _ => rfl) (ih (Nat.lt_of_succ_lt_succ enough))

/-- A cut that has no end gets one from closing braces behind the text. An opening brace needs
one of them at most, whether it opens a reference or a conditional. The induction is the
recursion of the cut.
-/
theorem closes_append_braces {depth count : Nat} {divided : Bool} {cs : List Char}
    (endless : cut? depth divided cs = none) (enough : depth + cs.count '{' < count)
    : Closes depth divided (cs ++ braces count) := by
  fun_induction cut? depth divided cs with
  | case1 depth divided => exact closes_braces (by simpa using enough) divided
  | case2 depth divided cs name rest hvalue ih =>
      obtain ⟨named, rfl⟩ := (reference?_eq_some_iff (by decide)).mp hvalue
      have hcount : rest.count '{' ≤ ('{' :: '$' :: (name ++ '}' :: rest)).count '{' :=
        List.IsSuffix.count_le _ ⟨'{' :: '$' :: (name ++ ['}']), by simp⟩
      have closes := ih (Option.map_eq_none_iff.mp endless) (by omega)
      simpa using Closes.of_map (cut?_reference named) (fun _ => rfl) closes
  | case3 depth divided cs hvalue ih =>
      rw [List.count_cons_self] at enough
      rcases reference?_append_braces hvalue count with hvalue' | ⟨name, named, rfl⟩
      · simp only [dite_eq_ite] at ih endless
        have hcut := @cut?_brace depth divided _ hvalue'
        rw [opening?_append_braces] at hcut
        have closes := ih (Option.map_eq_none_iff.mp endless) (by split <;> omega)
        exact .of_map hcut (fun _ => rfl) closes
      · -- The first brace completes a reference, and the others close the conditionals.
        obtain ⟨count, rfl⟩ := Nat.exists_eq_add_one.mpr (Nat.zero_lt_of_lt enough)
        have closes : Closes depth divided (braces count) := closes_braces (by omega) divided
        exact .of_map (cut?_reference named) (fun _ => rfl) closes
  | case4 => cases endless
  | case5 divided cs depth hbrace ih =>
      have closes := ih (Option.map_eq_none_iff.mp endless) (by simp at enough; omega)
      exact .of_map cut?_close_succ (fun _ => rfl) closes
  | case6 depth divided c cs hbrace hclose hseparator ih =>
      obtain ⟨rfl, rfl, rfl, hhead⟩ := hseparator
      obtain ⟨tail, rfl⟩ := List.head?_eq_some_iff.mp hhead
      have closes := ih (Option.map_eq_none_iff.mp endless) (by simpa using enough)
      exact .of_map cut?_separator (fun _ => rfl) closes
  | case7 depth divided c cs hbrace hclose hseparator ih =>
      have hcount : cs.count '{' ≤ (c :: cs).count '{' := List.count_le_count_cons
      have closes := ih (Option.map_eq_none_iff.mp endless) (by omega)
      refine .of_map (cut?_char hbrace hclose ?_) (fun _ => rfl) closes
      rintro rfl hhead ⟨rfl, rfl⟩
      cases cs with
      | nil => cases count <;> simp [braces, List.replicate_succ] at hhead
      | cons d cs => exact hseparator ⟨rfl, rfl, rfl, hhead⟩

end Body

/-- Closing braces at the top are text. -/
theorem reads_braces (count : Nat) : ∃ segments, Reads .top (braces count) segments [] := by
  induction count with
  | zero => exact ⟨[], .nil⟩
  | succ count ih =>
      obtain ⟨segments, reads⟩ := ih
      exact ⟨_, .text (plain_cons_iff.mpr (by simp)) reads⟩

/-- What a cut finds of a body reads as the branches of a conditional: nothing in a branch is
an error.
-/
theorem readsBody_of_cut? {cs : List Char} {body : Body} (h : Body.cut? 0 false cs = some body)
    : ∃ shown otherwise, ReadsBody body.text shown otherwise body.rest := by
  cases hinner : Descent.conditional? cs with
  | none => simp [Descent.cut?_eq_none_of_conditional? cs hinner] at h
  | some inner =>
      obtain ⟨_, hcs, readsBody⟩ := Descent.reads_of_conditional? cs hinner
      obtain ⟨found, rfl, compiles⟩ := readsBody.compiles
      rw [hcs, compiles.cut, Option.some.injEq] at h
      subst h
      exact ⟨_, _, readsBody⟩

/-- A conditional without an end is read when enough closing braces follow. -/
theorem Fault.reads_append_braces {behind : List Char} {column : String}
    {position offset count : Nat} (fault : Fault behind position (.unclosed column offset))
    (enough : behind.count '{' ≤ count)
    : ∃ segments, Reads .top (behind ++ braces count) segments [] := by
  cases fault with
  | @unclosed name blank after _ named lead endless =>
      have hcount : after.count '{' < ('{' :: '?' :: (name ++ (blank ++ after))).count '{' := by
        rw [List.count_cons_self, Nat.lt_add_one_iff]
        exact List.IsSuffix.count_le _ ⟨'?' :: (name ++ blank), by simp⟩
      obtain ⟨body, left, hbody, hrest⟩ := Body.closes_append_braces endless
        (Nat.lt_of_lt_of_le (by simpa using hcount) enough)
      obtain ⟨shown, otherwise, readsBody⟩ := readsBody_of_cut? hbody
      obtain ⟨segments, reads⟩ := reads_braces left
      have hlead := lead.append_braces count
      rw [← Body.text_append_rest_of_cut? hbody, hrest, ← List.append_nil (braces left)] at hlead
      rw [hrest, ← List.append_nil (braces left)] at readsBody
      have hall := Reads.conditional named hlead readsBody reads
      rw [← hrest, Body.text_append_rest_of_cut? hbody] at hall
      exact ⟨_, by simpa using hall⟩

-----------------------------------------------------------------------------------------
-- The two errors
-----------------------------------------------------------------------------------------

/-- The two errors tell hopeless text from unfinished text. Whatever follows a text with a stray
separator, the error stays the same, at the same offset. A text with a conditional that is
never closed compiles when enough closing braces follow: as many as the text has opening
braces, or any larger number of them.
-/
theorem compile_append_of_error {raw : String} {e : MarkupError} (h : compile raw = .error e)
    : match e with
      | .strayElse offset => ∀ more, compile (raw ++ more) = .error (.strayElse offset)
      | .unclosed .. =>
          ∀ count ≥ raw.toList.count '{',
            ∃ template, compile (raw ++ String.ofList (braces count)) = .ok template := by
  obtain ⟨front, segments, behind, hraw, reads, fault⟩ := compile_eq_error_iff.mp h
  cases e with
  | strayElse offset =>
      intro more
      cases fault with
      | @strayElse behind =>
          refine compile_eq_error_iff.mpr
            ⟨front, segments, '!' :: '!' :: (behind ++ more.toList), ?_, ?_, .strayElse⟩
          · simp [hraw]
          · exact reads.exchange .separator
  | unclosed column offset =>
      intro count enough
      have hbehind : behind.count '{' ≤ count := by
        rw [hraw, List.count_append] at enough
        omega
      obtain ⟨more, readsBehind⟩ := fault.reads_append_braces hbehind
      have hfront : Reads .top front segments (behind ++ braces count) := by
        cases fault with
        | unclosed => exact reads.exchange .opening
      obtain ⟨add, hadd⟩ := hfront.adds
      have hcompiled := readsBehind.compiles.compiled (width front)
      rw [Place.scope] at hcompiled
      refine ⟨⟨raw ++ String.ofList (braces count), add more⟩, ?_⟩
      rw [compile, String.toList_append, String.toList_ofList, hraw, List.append_assoc, hadd,
        Nat.zero_add, hcompiled]
      rfl

/-- A reference and an inner conditional without their ends stand in front of one separator and
behind another one.
-/
theorem compile_append_of_error_unfinished
    : let stray := "\x7b$a!!\x7b?b"
      let unclosed := "\x7b$a\x7b?b \x7b?c x!!y!\x7b$d"
      compile stray = .error (.strayElse 3)
      ∧ (∀ more, compile (stray ++ more) = .error (.strayElse 3))
      ∧ compile unclosed = .error (.unclosed "b" 3)
      ∧ unclosed.toList.count '{' = 4
      ∧ ∀ count ≥ 4,
          ∃ template, compile (unclosed ++ String.ofList (braces count)) = .ok template := by
  intro stray unclosed
  have hstray : compile stray = .error (.strayElse 3) :=
    Outcome.eq_error_of_error? (by decide +kernel)
  have hunclosed : compile unclosed = .error (.unclosed "b" 3) :=
    Outcome.eq_error_of_error? (by decide +kernel)
  have hcount : unclosed.toList.count '{' = 4 := by decide
  have hcloses := compile_append_of_error hunclosed
  rw [hcount] at hcloses
  exact ⟨hstray, compile_append_of_error hstray, hunclosed, hcount, hcloses⟩

end MailMerge.Template

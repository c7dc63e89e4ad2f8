import MailMerge.Proofs.Template.Fault
import Mathlib.Logic.Relation

/-! The place of a template error. Its offset lies on a character of the text, all text in
front of it is a template by itself, and behind it stands what the error tells of. Only text
at the top can be at fault: once the end of a conditional is found, all that is compiled on
the way through its branches compiles.
-/

namespace MailMerge.Template

open MailMerge.Text

-----------------------------------------------------------------------------------------
-- Text behind an offset
-----------------------------------------------------------------------------------------

/-- The width of a text is its size in bytes. -/
theorem utf8ByteSize_ofList (cs : List Char) : (String.ofList cs).utf8ByteSize = width cs := by
  induction cs with
  | nil => rfl
  | cons c cs ih =>
      have hcons : String.ofList (c :: cs) = String.singleton c ++ String.ofList cs :=
        String.toList_injective (by simp)
      rw [hcons, String.utf8ByteSize_append, String.utf8ByteSize_singleton, ih, width_cons]

/-- `Shows behind e` says that `behind` starts with what the error tells of: a separator, or
the opening of a conditional on just the column of the error.
-/
def Shows (behind : String) : MarkupError → Prop
  | .strayElse _ => ∃ rest, behind = "!!" ++ rest
  | .unclosed column _ =>
      ∃ rest : String,
        behind = "\x7b?" ++ column ++ rest ∧ ∀ c ∈ rest.toList.head?, isNameChar c = false

/-- A fault is what its error tells of. -/
theorem Fault.shows {behind : List Char} {offset : Nat} {e : MarkupError}
    (fault : Fault behind offset e)
    : Shows (String.ofList behind) e := by
  cases fault with
  | @strayElse behind => exact ⟨String.ofList behind, String.toList_injective (by simp)⟩
  | @unclosed name blank after _ named lead endless =>
      refine ⟨String.ofList (blank ++ after), String.toList_injective (by simp), ?_⟩
      rw [String.toList_ofList]
      exact lead.named

theorem Fault.offset_eq {behind : List Char} {offset : Nat} {e : MarkupError}
    (fault : Fault behind offset e)
    : e.offset = offset := by
  cases fault <;> rfl

/-- A fault has some text to stand in. -/
theorem Fault.width_pos {behind : List Char} {offset : Nat} {e : MarkupError}
    (fault : Fault behind offset e)
    : 0 < width behind := by
  cases fault with
  | strayElse => exact Nat.add_pos_left (Char.utf8Size_pos _) _
  | unclosed => exact Nat.add_pos_left (Char.utf8Size_pos _) _

/-- What reads as segments in front of other text does so at the end of a text. -/
theorem Spares.of_nil {place : Place} {behind : List Char} : Spares place behind [] := by
  intro front _ plain
  rw [List.append_nil]
  exact plain.of_append

-----------------------------------------------------------------------------------------
-- Text on the way through a branch
-----------------------------------------------------------------------------------------

/-- One piece of text of a branch leads to another when the compilation of the first, at its
offset, compiles the second at its own: the text behind what stands at the head of the first,
or a branch of the conditional that stands there.
-/
inductive LeadsTo : Nat × List Char → Nat × List Char → Prop
  | text {offset c cs} (mark : Mark.read .branch c cs = .text)
    : LeadsTo (offset, c :: cs) (offset + c.utf8Size, cs)
  | value {offset c cs name rest} (mark : Mark.read .branch c cs = .value name rest)
    : LeadsTo (offset, c :: cs) (offset + name.length + 3, rest)
  | shown {offset c cs name start body}
    (mark : Mark.read .branch c cs = .conditional name start body)
    : LeadsTo (offset, c :: cs) (offset + start, body.shown)
  | otherwise {offset c cs name start body second}
    (mark : Mark.read .branch c cs = .conditional name start body)
    (divided : body.otherwise = some second)
    : LeadsTo (offset, c :: cs) (offset + start + width body.shown + 2, second)
  | rest {offset c cs name start body}
    (mark : Mark.read .branch c cs = .conditional name start body)
    : LeadsTo (offset, c :: cs) (offset + start + width body.text, body.rest)

/-- The text of a branch compiles where it stands. -/
def IsFine (piece : Nat × List Char) : Prop :=
  ∃ segments, compileText .branch piece.1 piece.2 = .ok segments

/-- Where a conditional compiles, each of its branches does, and the text behind it. -/
theorem isFine_conditional {offset start : Nat} {c : Char} {cs name : List Char} {body : Body}
    (mark : Mark.read .branch c cs = .conditional name start body)
    (fine : IsFine (offset, c :: cs))
    : IsFine (offset + start, body.shown)
      ∧ (∀ second ∈ body.otherwise, IsFine (offset + start + width body.shown + 2, second))
      ∧ IsFine (offset + start + width body.text, body.rest) := by
  obtain ⟨segments, h⟩ := fine
  obtain ⟨first, second, behind⟩ := body
  dsimp only at h
  rw [compileText] at h
  split at h <;> rename_i hmark <;> cases mark.symm.trans hmark
  obtain ⟨shown, hshown, h⟩ := Outcome.bind_eq_ok_iff.mp h
  cases second with
  | none =>
      obtain ⟨_, -, h⟩ := Outcome.bind_eq_ok_iff.mp h
      obtain ⟨rest, hrest, -⟩ := Outcome.bind_eq_ok_iff.mp h
      exact ⟨⟨shown, hshown⟩, by simp, ⟨rest, hrest⟩⟩
  | some second =>
      obtain ⟨otherwise, hotherwise, h⟩ := Outcome.bind_eq_ok_iff.mp h
      obtain ⟨rest, hrest, -⟩ := Outcome.bind_eq_ok_iff.mp h
      obtain ⟨segments, hsegments, -⟩ := Outcome.map_eq_ok_iff.mp hotherwise
      exact ⟨⟨shown, hshown⟩, by simpa using ⟨segments, hsegments⟩, ⟨rest, hrest⟩⟩

/-- Text that compiles leads to text that compiles. -/
theorem LeadsTo.isFine {piece next : Nat × List Char} (leads : LeadsTo piece next)
    (fine : IsFine piece)
    : IsFine next := by
  cases leads with
  | text mark =>
      obtain ⟨segments, h⟩ := fine
      rw [compileText_text mark] at h
      obtain ⟨segments, h, -⟩ := Outcome.map_eq_ok_iff.mp h
      exact ⟨segments, h⟩
  | value mark =>
      obtain ⟨segments, h⟩ := fine
      rw [compileText_value mark] at h
      obtain ⟨segments, h, -⟩ := Outcome.map_eq_ok_iff.mp h
      exact ⟨segments, h⟩
  | shown mark => exact (isFine_conditional mark fine).1
  | otherwise mark divided => exact (isFine_conditional mark fine).2.1 _ divided
  | rest mark => exact (isFine_conditional mark fine).2.2

/-- All that a text leads to compiles if the text does, by induction on the way there. -/
theorem isFine_of_leadsTo {piece later : Nat × List Char}
    (leads : Relation.ReflTransGen LeadsTo piece later) (fine : IsFine piece)
    : IsFine later := by
  induction leads with
  | refl => exact fine
  | tail _ step ih => exact step.isFine ih

/-- What a cut finds of a body compiles, branch by branch. -/
theorem Body.compiles_of_cut? {cs : List Char} {body : Body}
    (h : Body.cut? 0 false cs = some body)
    : ∃ shown otherwise, body.Compiles shown otherwise := by
  obtain ⟨shown, otherwise, readsBody⟩ := readsBody_of_cut? h
  obtain ⟨found, htext, compiles⟩ := readsBody.compiles
  have hcut := compiles.cut body.rest
  rw [htext, Body.text_append_rest_of_cut? h, h, Option.some.injEq] at hcut
  rw [hcut]
  exact ⟨shown, otherwise, compiles.cut, compiles.shown, compiles.otherwise⟩

/-- Each branch of a body that a cut finds compiles at every offset. -/
theorem Body.isFine_of_cut? {cs branch : List Char} {body : Body}
    (h : Body.cut? 0 false cs = some body)
    (hbranch : branch = body.shown ∨ body.otherwise = some branch) (offset : Nat)
    : IsFine (offset, branch) := by
  obtain ⟨shown, otherwise, compiles⟩ := Body.compiles_of_cut? h
  rcases hbranch with rfl | divided
  · exact ⟨shown, compiles.shown offset⟩
  · have hsecond := compiles.otherwise
    rw [divided] at hsecond
    cases hsecond with
    | some slice => exact ⟨_, slice offset⟩

-----------------------------------------------------------------------------------------
-- Errors of a template
-----------------------------------------------------------------------------------------

/-- The offset of an error is the size of the text in front of it, that text is a template,
and what the error tells of stands behind it. No such error is ever met behind the opening of
a conditional whose end is found, however deep the compilation of its branches goes.
-/
theorem compile_error_place (raw : String)
    : (∀ e,
        compile raw = .error e
        → e.offset < raw.utf8ByteSize
          ∧ ∃ front behind,
              raw = front ++ behind
              ∧ front.utf8ByteSize = e.offset
              ∧ (∃ template, compile front = .ok template)
              ∧ Shows behind e)
      ∧ ∀ cs body branch offset piece,
          Body.cut? 0 false cs = some body
          → (branch = body.shown ∨ body.otherwise = some branch)
          → Relation.ReflTransGen LeadsTo (offset, branch) piece
          → IsFine piece := by
  refine ⟨?_, fun cs body branch offset piece h hbranch leads => ?_⟩
  · intro e h
    obtain ⟨front, segments, behind, hraw, reads, fault⟩ := compile_eq_error_iff.mp h
    have hsize : raw.utf8ByteSize = width front + width behind := by
      rw [← @String.ofList_toList raw, utf8ByteSize_ofList, hraw, width_append]
    have hpos := fault.width_pos
    refine ⟨by rw [fault.offset_eq, hsize]; omega, String.ofList front, String.ofList behind,
      ?_, ?_, ⟨⟨String.ofList front, segments⟩, compile_eq_ok_iff.mpr ⟨rfl, ?_⟩⟩, fault.shows⟩
    · exact String.toList_injective (by simp [hraw])
    · rw [utf8ByteSize_ofList, fault.offset_eq]
    · rw [String.toList_ofList]
      exact reads.exchange .of_nil
  · exact isFine_of_leadsTo leads (Body.isFine_of_cut? h hbranch offset)

/-- A conditional without an end stands behind a finished one and a letter of two bytes, and a
conditional within a branch is compiled at an offset of its own.
-/
theorem compile_error_place_nested
    : let raw := "é\x7b?a x\x7d\x7b?vip.x!![$c]\x7b?d\x7d"
      let e : MarkupError := .unclosed "vip.x" 8
      let outer : Body := ⟨"\x7b?b [$c]!!d\x7d".toList, some ['e'], []⟩
      let inner : Body := ⟨"[$c]".toList, some ['d'], []⟩
      compile raw = .error e
      ∧ (∃ front behind,
          raw = front ++ behind
          ∧ front.utf8ByteSize = 8
          ∧ (∃ template, compile front = .ok template)
          ∧ Shows behind e)
      ∧ Body.cut? 0 false "\x7b?b [$c]!!d\x7d!!e\x7d".toList = some outer
      ∧ Relation.ReflTransGen LeadsTo (11, outer.shown) (15, inner.shown)
      ∧ IsFine (15, inner.shown) := by
  intro raw e outer inner
  have herror : compile raw = .error e := Outcome.eq_error_of_error? (by decide +kernel)
  have hcut : Body.cut? 0 false "\x7b?b [$c]!!d\x7d!!e\x7d".toList = some outer := by
    with_unfolding_all rfl
  have hmark : Mark.read .branch '\x7b' "?b [$c]!!d\x7d".toList = .conditional ['b'] 4 inner := by
    with_unfolding_all rfl
  have leads : Relation.ReflTransGen LeadsTo (11, outer.shown) (15, inner.shown) :=
    .single (.shown hmark)
  exact ⟨herror, ((compile_error_place raw).1 e herror).2, hcut, leads,
    (compile_error_place raw).2 _ outer outer.shown 11 _ hcut (.inl rfl) leads⟩

end MailMerge.Template

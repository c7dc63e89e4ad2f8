import MailMerge.Proofs.Template.ByteRecognisers
import MailMerge.Proofs.Template.JoinedSource

/-! Reading by byte positions is compilation. Each mark is taken at the character where it is
read, no mark is met inside of a character, and each branch is read at the offset where it is
compiled, so that no checked step on the way fails.
-/

namespace MailMerge.Template.ByteReader

open MailMerge.Text
open Checked

variable {limit : Nat} {inner : String → Nat → Checked (List Segment)}

-----------------------------------------------------------------------------------------
-- Conditionals
-----------------------------------------------------------------------------------------

/-- Reads the branches of a body that stands at an offset. -/
def branchesOf (inner : String → Nat → Checked (List Segment)) (body : Body) (offset : Nat)
    : Checked (List Segment × Option (List Segment)) := do
  let shown ← inner (String.ofList body.shown) offset
  match body.otherwise with
  | none => return (shown, none)
  | some second =>
      let otherwise ← inner (String.ofList second) (offset + width body.shown + 2)
      return (shown, some otherwise)

/-- The two branches are cut out of a body on either side of its separator. -/
theorem branches_ofList (body : Body) {offset : Nat}
    (fits : offset + width body.inner ≤ limit)
    : branches limit inner (String.ofList body.inner) offset
          (body.otherwise.map fun _ => width body.shown)
      = branchesOf inner body offset := by
  obtain ⟨shown, otherwise, rest⟩ := body
  rw [branchesOf]
  cases otherwise with
  | none =>
      simp only [Body.inner, Option.elim_none, List.append_nil, Option.map_none]
      rfl
  | some second =>
      simp only [Body.inner, Option.elim_some, Option.map_some, width_append] at fits ⊢
      have hmark : width ['!', '!'] = 2 := rfl
      have hsecond := sliceFrom_ofList (shown ++ ['!', '!']) second
      rw [width_append, hmark, List.append_assoc] at hsecond
      rw [branches, slice_start_ofList, ok_bind]
      refine bind_congr fun first => ?_
      rw [sum_eq (by omega), ok_bind, hsecond, ok_bind, sum_eq (by omega), ok_bind,
        sum_eq (by omega), ok_bind]

section

variable {name blank behind : List Char}

/-- A body starts behind the lead of its conditional. -/
theorem bodyStart_ofList (named : IsName name) (lead : Lead blank behind)
    (fits : 2 + name.length + blank.length ≤ limit)
    : bodyStart limit (String.ofList ('{' :: '?' :: (name ++ (blank ++ behind))))
          (2 + name.length)
      = .ok (2 + name.length + blank.length) := by
  have hblank := any_isBlankByte_byte? ('{' :: '?' :: name) (blank ++ behind)
  rw [width_opened (by decide) (by decide) named.2, List.cons_append, List.cons_append]
    at hblank
  rw [bodyStart, hblank]
  cases lead with
  | none named unblank =>
      rw [if_neg]
      · rfl
      · rw [List.nil_append, Bool.not_eq_true, Option.any_eq_false]
        simpa using unblank
  | one blank =>
      rw [if_pos]
      · exact sum_eq fits
      · simpa using blank

theorem width_lead (named : IsName name) (lead : Lead blank behind)
    : width ('{' :: '?' :: (name ++ blank)) = 2 + name.length + blank.length := by
  rw [← List.cons_append, ← List.cons_append, width_append,
    width_opened (by decide) (by decide) named.2, lead.width_eq_length]

theorem sliceFrom_body (named : IsName name) (lead : Lead blank behind)
    : sliceFrom (String.ofList ('{' :: '?' :: (name ++ (blank ++ behind))))
          (2 + name.length + blank.length)
      = .ok (String.ofList behind) := by
  rw [← width_lead named lead, ← List.append_assoc]
  exact sliceFrom_ofList _ _

/-- A body is cut out of its conditional without the brace that closes it. -/
theorem slice_body {body : Body} (named : IsName name)
    (lead : Lead blank (body.text ++ body.rest))
    : slice (String.ofList ('{' :: '?' :: (name ++ (blank ++ (body.text ++ body.rest)))))
          (2 + name.length + blank.length)
          (2 + name.length + blank.length + width body.inner)
      = .ok (String.ofList body.inner) := by
  rw [← width_lead named lead, Body.text_eq_inner, List.append_assoc,
    ← List.append_assoc name]
  exact slice_ofList ('{' :: '?' :: (name ++ blank)) _ _

end

/-- What is read behind an opening brace: nothing, or what a name, a lead and a cut say. -/
theorem conditional?_eq (cs : List Char)
    : (Template.opening? cs = none ∧ Mark.conditional? cs = none)
      ∨ ∃ name blank behind,
          cs = '?' :: (name ++ (blank ++ behind))
          ∧ IsName name
          ∧ Lead blank behind
          ∧ Mark.conditional? cs
            = some
              ((Body.cut? 0 false behind).elim (.unclosed name)
                (.conditional name (2 + name.length + blank.length))) := by
  cases hopen : Template.opening? cs with
  | none => exact .inl ⟨rfl, by rw [Mark.conditional?, hopen]; rfl⟩
  | some opened =>
      obtain ⟨name, after⟩ := opened
      obtain ⟨named, hafter, rfl⟩ := opening?_eq_some_iff.mp hopen
      obtain ⟨blank, behind, rfl, lead⟩
          : ∃ blank behind, after = blank ++ behind ∧ Lead blank behind :=
        ⟨_, _, (List.take_append_drop _ _).symm, lead_take hafter⟩
      refine .inr ⟨name, blank, behind, rfl, named, lead, ?_⟩
      simp only [Mark.conditional?, hopen, Option.map_some, lead.leadWidth_eq, List.drop_left]
      cases Body.cut? 0 false behind <;> rfl

-----------------------------------------------------------------------------------------
-- Marks
-----------------------------------------------------------------------------------------

/-- What the reader comes to at a mark that stands at an offset. -/
def found? (inner : String → Nat → Checked (List Segment)) (offset : Nat)
    : Mark → Checked (Option Found)
  | .text => .ok none
  | .value name _ => .ok (some (.value (String.ofList name), name.length + 3))
  | .conditional name lead body => do
      let (shown, otherwise) ← branchesOf inner body (offset + lead)
      return some
        (.conditional (String.ofList name) shown otherwise, lead + width body.text)
  | .unclosed name => .error (.fault (.unclosed (String.ofList name) offset))
  | .strayElse => .error (.fault (.strayElse offset))

variable {scope : Scope} {front cs : List Char} {c : Char} {offset : Nat}

/-- The reader comes to the conditional that is read behind an opening brace. -/
theorem conditional?_ofList (cs : List Char) (fits : offset + width ('{' :: cs) ≤ limit)
    : conditional? limit inner (String.ofList ('{' :: cs)) offset
      = found? inner offset ((Mark.conditional? cs).getD .text) := by
  obtain ⟨hopen, hread⟩ | ⟨name, blank, behind, rfl, named, lead, hread⟩ := conditional?_eq cs
  · rw [conditional?, opening?_ofList (by decide), hopen, hread]
    rfl
  · rw [width_opening named lead] at fits
    have hbounds
        : boundsFrom limit (String.ofList behind) 0 none 0
          = .ok ((Body.cut? 0 false behind).map (Bounds.ofBody 0 none)) :=
      boundsFrom_ofList behind [] none (by simp; omega) (Nat.zero_le _)
    rw [conditional?, opening?_ofList (by decide), opening?_lead named lead, ok_bind, hread,
      Option.getD_some]
    dsimp only [Option.map_some]
    rw [sum_eq (by omega), ok_bind, slice_opened (by decide) (by decide) named.2, ok_bind,
      bodyStart_ofList named lead (by omega), ok_bind, sliceFrom_body named lead, ok_bind,
      hbounds, ok_bind]
    cases hcut : Body.cut? 0 false behind with
    | none => rfl
    | some body =>
        obtain rfl := Body.text_append_rest_of_cut? hcut
        have hclose : width ['}'] = 1 := rfl
        rw [width_append, Body.text_eq_inner, width_append, hclose] at fits
        simp only [Option.map_some, Bounds.ofBody, Option.none_or, Nat.zero_add,
          Option.elim_some]
        rw [sum_eq (by omega), ok_bind, slice_body named lead, ok_bind, sum_eq (by omega),
          ok_bind, branches_ofList body (by omega), found?.eq_def]
        refine bind_congr fun found => ?_
        rw [sum_eq (by omega), ok_bind, Body.text_eq_inner, width_append, hclose]
        rfl

/-- At a character, the reader comes to the mark that is read there. -/
theorem mark?_ofList (fits : offset + width (front ++ c :: cs) ≤ limit)
    : mark? limit inner scope (String.ofList (front ++ c :: cs)) offset (width front)
      = found? inner (offset + width front) (Mark.read scope c cs) := by
  obtain ⟨found, hbyte, hfound⟩ := exists_byte_eq front cs c
  have hpos := Char.utf8Size_pos c
  rw [width_append] at fits
  rw [mark?, hbyte, ok_bind, Mark.read]
  simp only [hfound '{' (by decide), hfound '[' (by decide), hfound '!' (by decide)]
  split
  · rename_i hc
    subst hc
    rw [sliceFrom_ofList, ok_bind, reference?_ofList (by decide) (by decide) cs (by omega),
      ok_bind]
    cases Template.reference? '}' cs with
    | some found => rfl
    | none =>
        rw [Option.map_none]
        dsimp only
        rw [sum_eq (by omega), ok_bind, conditional?_ofList cs (by omega)]
  · split
    · rename_i hmark
      obtain ⟨rfl, -⟩ := hmark
      rw [sliceFrom_ofList, ok_bind, reference?_ofList (by decide) (by decide) cs (by omega)]
      cases Template.reference? ']' cs <;> rfl
    · simp only [← and_assoc]
      split
      · rename_i hmark
        obtain ⟨rfl, hscope⟩ := hmark
        have hbehind := byte?_behind_iff (c := '!') (a := '!') (by decide) (by decide) front cs
        rw [width_cons] at fits
        rw [sum_eq (by omega), ok_bind]
        by_cases hhead : cs.head? = some '!'
        · rw [if_pos (hbehind.mpr hhead), if_pos ⟨⟨rfl, hscope⟩, hhead⟩, sum_eq (by omega)]
          rfl
        · rw [if_neg fun h => hhead (hbehind.mp h), if_neg fun both => hhead both.2]
          rfl
      · rename_i hmark
        rw [if_neg fun both => hmark both.1]
        rfl

/-- No mark is met inside of a character. -/
theorem mark?_inside {count : Nat} (behind : 0 < count) (inside : count < c.utf8Size)
    : mark? limit inner scope (String.ofList (front ++ c :: cs)) offset (width front + count)
      = .ok none := by
  obtain ⟨found, hbyte, hne⟩ := exists_byte_ne front cs c behind inside
  rw [mark?, hbyte, ok_bind, if_neg (hne '{' (by decide)),
    if_neg fun both => hne '[' (by decide) both.1,
    if_neg fun both => hne '!' (by decide) both.1]
  rfl

/-- A reference that is read takes its name and three characters of one byte. -/
theorem split_of_read_value {name rest : List Char}
    (h : Mark.read scope c cs = .value name rest)
    : ∃ mark, mark ++ rest = c :: cs ∧ width mark = name.length + 3 := by
  have hsplit {opening closing : Char} (hopening : opening.utf8Size = 1)
      (hclosing : closing.utf8Size = 1) (hname : isNameChar closing = false)
      (href : Template.reference? closing cs = some (name, rest))
      : ∃ mark, mark ++ rest = opening :: cs ∧ width mark = name.length + 3 := by
    obtain ⟨named, rfl⟩ := (reference?_eq_some_iff hname).mp href
    have hdollar : '$'.utf8Size = 1 := rfl
    refine ⟨opening :: '$' :: (name ++ [closing]), by simp, ?_⟩
    simp only [width_cons, width_append, width_nil, width_name named.2, hopening, hclosing,
      hdollar]
    omega
  rw [Mark.read] at h
  split at h
  · rename_i hc
    subst hc
    split at h
    · rename_i href
      cases h
      exact hsplit rfl rfl (by decide) href
    · obtain ⟨-, hread⟩ | ⟨_, _, behind, -, -, -, hread⟩ := conditional?_eq cs
      · rw [hread] at h
        cases h
      · rw [hread] at h
        cases hcut : Body.cut? 0 false behind <;> rw [hcut] at h <;> cases h
  · split at h
    · rename_i hc
      obtain ⟨rfl, -⟩ := hc
      split at h
      · rename_i href
        cases h
        exact hsplit rfl rfl (by decide) href
      · cases h
    · split at h <;> cases h

/-- A conditional that is read has a body that is cut from the text behind its lead. -/
theorem split_of_read_conditional {name : List Char} {lead : Nat} {body : Body}
    (h : Mark.read scope c cs = .conditional name lead body)
    : ∃ mark behind,
        mark ++ behind = c :: cs
        ∧ width mark = lead
        ∧ Body.cut? 0 false behind = some body := by
  rw [Mark.read] at h
  split at h
  · rename_i hc
    subst hc
    split at h
    · cases h
    · obtain ⟨-, hread⟩ | ⟨_, blank, behind, rfl, named, leads, hread⟩ := conditional?_eq cs
      · rw [hread] at h
        cases h
      · rw [hread] at h
        cases hcut : Body.cut? 0 false behind with
        | none =>
            rw [hcut] at h
            cases h
        | some body =>
            rw [hcut] at h
            cases h
            exact ⟨'{' :: '?' :: (name ++ blank), behind, by simp, width_lead named leads,
              hcut⟩
  · split at h
    · split at h <;> cases h
    · split at h <;> cases h

-----------------------------------------------------------------------------------------
-- Turns of the reader
-----------------------------------------------------------------------------------------

/-- Reads a piece of a text, which must be shorter than the text. -/
def piece (limit : Nat) (text piece : String) (offset : Nat) : Checked (List Segment) :=
  if piece.utf8ByteSize < text.utf8ByteSize then
    segmentsFrom limit .branch piece offset .empty 0 0
  else trap .notShorter

section

variable {text : String} {builder : Builder} {start position : Nat}

theorem segmentsFrom_none (inside : position < text.utf8ByteSize)
    (h : mark? limit (piece limit text) scope text offset position = .ok none)
    (fits : position + 1 ≤ limit)
    : segmentsFrom limit scope text offset builder start position
      = segmentsFrom limit scope text offset builder start (position + 1) := by
  unfold piece at h
  rw [segmentsFrom, if_pos inside]
  dsimp only
  rw [h, ok_bind]
  dsimp only
  rw [advance_eq Nat.one_pos fits, ok_bind]

theorem segmentsFrom_some {segment : Segment} {literal : String} {count : Nat}
    (inside : position < text.utf8ByteSize)
    (h
      : mark? limit (piece limit text) scope text offset position
        = .ok (some (segment, count)))
    (hliteral : slice text start position = .ok literal)
    (hpos : 0 < count) (fits : position + count ≤ limit)
    : segmentsFrom limit scope text offset builder start position
      = segmentsFrom limit scope text offset ((builder.add literal).push segment)
          (position + count) (position + count) := by
  unfold piece at h
  rw [segmentsFrom, if_pos inside]
  dsimp only
  rw [h, ok_bind]
  dsimp only
  rw [hliteral, ok_bind, advance_eq hpos fits, ok_bind]

theorem segmentsFrom_error {halt : Halt} (inside : position < text.utf8ByteSize)
    (h : mark? limit (piece limit text) scope text offset position = .error halt)
    : segmentsFrom limit scope text offset builder start position = .error halt := by
  unfold piece at h
  rw [segmentsFrom, if_pos inside]
  dsimp only
  rw [h]
  rfl

/-- The reader passes over the bytes of a character behind its first one. -/
theorem segmentsFrom_behind (fits : width (front ++ c :: cs) ≤ limit)
    : segmentsFrom limit scope (String.ofList (front ++ c :: cs)) offset builder start
          (width front + 1)
      = segmentsFrom limit scope (String.ofList (front ++ c :: cs)) offset builder start
          (width front + c.utf8Size) := by
  rw [width_append, width_cons] at fits
  exact eq_behind (c := c)
    (f := fun count =>
      segmentsFrom limit scope (String.ofList (front ++ c :: cs)) offset builder start
        (width front + count))
    fun count hpos inside =>
      segmentsFrom_none (inside_ofList front cs c inside) (mark?_inside hpos inside) (by omega)

end

-----------------------------------------------------------------------------------------
-- The reader and compilation
-----------------------------------------------------------------------------------------

/-- Literal text in front of segments that stand apart, by induction on the text. -/
theorem foldr_consChar {behind : List Segment} (apart : Apart behind) (text : List Char)
    : text.foldr Segment.consChar behind
      = (ofLiteral (String.ofList text)).segments ++ behind := by
  induction text with
  | nil => rfl
  | cons c text ih => rw [List.foldr_cons, ih, ← consChar_append apart, consChar_ofLiteral]

/-- What the reader comes to between two stretches of a text that stands at an offset. -/
def markAt? (limit : Nat) (scope : Scope) (offset : Nat) (front behind : List Char)
    : Checked (Option Found) :=
  mark? limit (piece limit (String.ofList (front ++ behind))) scope
    (String.ofList (front ++ behind)) offset (width front)

/-- From a position on, with literal text in front of it that is not yet gathered, the reader
comes to what the rest of the text compiles to. The text must fit the limit.
-/
def Follows (limit : Nat) (scope : Scope) (offset : Nat) (front text cs : List Char)
    : Prop :=
  offset + width (front ++ text ++ cs) ≤ limit
  → ∀ segments : List Segment,
    segmentsFrom limit scope (String.ofList (front ++ text ++ cs)) offset
        { segments, literal := "" } (width front) (width (front ++ text))
      = ((compileText scope (offset + width (front ++ text)) cs).map fun behind =>
          segments ++ text.foldr Segment.consChar behind).mapError .fault

/-- A piece is read as the segments that it compiles to. -/
theorem piece_ofList {whole part : List Char} {segments : List Segment}
    (shorter : width part < width whole) (fits : offset + width part ≤ limit)
    (follows : Follows limit .branch offset [] [] part) (slice : Slice part segments)
    : piece limit (String.ofList whole) (String.ofList part) offset = .ok segments := by
  have h := follows fits []
  rw [slice] at h
  rw [piece, utf8ByteSize_ofList, utf8ByteSize_ofList, if_pos shorter]
  exact h

/-- A branch of a body, with all in front of it in the body, is shorter than the body. -/
theorem width_lt_text (body : Body)
    : width body.shown < width body.text
      ∧ ∀ second ∈ body.otherwise,
          width body.shown + 2 + width second < width body.text := by
  have hclose : width ['}'] = 1 := rfl
  have hmark : width ['!', '!'] = 2 := rfl
  obtain ⟨first, second, rest⟩ := body
  cases second with
  | none =>
      simp only [Body.text, Option.elim_none, width_append, width_nil, hclose]
      exact ⟨by omega, by simp⟩
  | some second =>
      simp only [Body.text, Option.elim_some, width_append, hclose, hmark,
        Option.mem_some_iff]
      exact ⟨by omega, by rintro _ rfl; omega⟩

/-- The branches of a body are read as the segments that they compile to. -/
theorem branchesOf_piece {whole : List Char} {body : Body} {shown : List Segment}
    {otherwise : Option (List Segment)} (shorter : width body.text ≤ width whole)
    (fits : offset + width body.text ≤ limit) (compiles : body.Compiles shown otherwise)
    (first : Follows limit .branch offset [] [] body.shown)
    (other
      : ∀ second ∈ body.otherwise,
          Follows limit .branch (offset + width body.shown + 2) [] [] second)
    : branchesOf (piece limit (String.ofList whole)) body offset
      = .ok (shown, otherwise) := by
  obtain ⟨hshown, hsecond⟩ := width_lt_text body
  obtain ⟨slice, slices⟩ := And.intro compiles.shown compiles.otherwise
  rw [branchesOf, piece_ofList (by omega) (by omega) first slice, ok_bind]
  cases h : body.otherwise with
  | none =>
      rw [h] at slices
      cases slices
      rfl
  | some second =>
      have hsecond := hsecond second h
      rw [h] at slices
      cases slices with
      | some slice =>
          dsimp only
          rw [piece_ofList (by omega) (by omega) (other second h) slice]
          rfl

namespace Follows

variable {text : List Char}

theorem nil : Follows limit scope offset front text [] := by
  intro fits segments
  have hend : ¬ width (front ++ text) < (String.ofList (front ++ text)).utf8ByteSize := by
    rw [utf8ByteSize_ofList]
    exact Nat.lt_irrefl _
  have happart : Apart [] := fun _ _ h => by cases h
  have hliteral := foldr_consChar happart text
  rw [List.append_nil] at hliteral
  rw [List.append_nil, segmentsFrom, if_neg hend, sliceFrom_ofList, ok_bind, compileText]
  simp only [Except.map, Outcome.mapError_ok, hliteral]
  rfl

/-- A character of text is left for later. -/
theorem char (mark : Mark.read scope c cs = .text)
    (tail : Follows limit scope offset front (text ++ [c]) cs)
    : Follows limit scope offset front text (c :: cs) := by
  intro fits segments
  have hpos := Char.utf8Size_pos c
  have hread (inner : String → Nat → Checked (List Segment))
      : mark? limit inner scope (String.ofList (front ++ text ++ c :: cs)) offset
            (width (front ++ text))
        = .ok none := by
    rw [mark?_ofList fits, mark]
    rfl
  have hnext : width (front ++ text) + 1 ≤ limit := by
    rw [width_append (front ++ text), width_cons] at fits
    omega
  have hwhole : front ++ (text ++ [c]) ++ cs = front ++ text ++ c :: cs := by simp
  have hposition : width (front ++ (text ++ [c])) = width (front ++ text) + c.utf8Size := by
    simp [Nat.add_assoc]
  rw [Follows, hwhole, hposition] at tail
  rw [segmentsFrom_none (starts_ofList _ _ _) (hread _) hnext,
    segmentsFrom_behind (by omega), tail fits, compileText_text mark, Outcome.map_map,
    Nat.add_assoc]
  simp only [List.foldr_append, List.foldr_cons, List.foldr_nil]
  rfl

/-- A mark that is recognised is gathered, with the literal text in front of it. -/
theorem mark {mark rest : List Char} {segment : Segment} (hmark : mark ++ rest = c :: cs)
    (hpos : 0 < width mark)
    (found
      : markAt? limit scope offset (front ++ text) (c :: cs)
        = .ok (some (segment, width mark)))
    (apart : ∀ behind, Apart (segment :: behind))
    (compiled
      : compileText scope (offset + width (front ++ text)) (c :: cs)
        = (compileText scope (offset + width (front ++ text) + width mark) rest).map
            (segment :: ·))
    (tail : Follows limit scope offset (front ++ text ++ mark) [] rest)
    : Follows limit scope offset front text (c :: cs) := by
  intro fits segments
  have hliteral
      : slice (String.ofList (front ++ text ++ c :: cs)) (width front) (width (front ++ text))
        = .ok (String.ofList text) := by
    rw [List.append_assoc, width_append]
    exact slice_ofList _ _ _
  have hwhole : front ++ text ++ mark ++ [] ++ rest = front ++ text ++ c :: cs := by
    simp [← hmark]
  rw [Follows, hwhole, List.append_nil, width_append (front ++ text) mark] at tail
  have htail := tail fits (segments ++ (ofLiteral (String.ofList text)).segments ++ [segment])
  have hnext : width (front ++ text) + width mark ≤ limit := by
    rw [← hmark, width_append (front ++ text), width_append mark] at fits
    omega
  rw [segmentsFrom_some (starts_ofList _ _ _) found hliteral hpos hnext, compiled,
    Outcome.map_map, Nat.add_assoc]
  refine htail.trans (congrArg (Except.mapError _) (congrArg (Except.map · _) ?_))
  funext behind
  simp [foldr_consChar (apart behind)]

/-- A reference is gathered under its name. -/
theorem value {name rest : List Char} (hmark : Mark.read scope c cs = .value name rest)
    (tail : ∀ mark, Follows limit scope offset (front ++ text ++ mark) [] rest)
    : Follows limit scope offset front text (c :: cs) := by
  intro fits
  obtain ⟨mark, hcs, hwidth⟩ := split_of_read_value hmark
  have hfound
      : markAt? limit scope offset (front ++ text) (c :: cs)
        = .ok (some (.value (String.ofList name), width mark)) := by
    rw [markAt?, mark?_ofList fits, hmark, hwidth]
    rfl
  refine Follows.mark hcs (by omega) hfound (fun _ _ _ h => by cases h) ?_ (tail mark) fits
  rw [compileText_value hmark, hwidth]
  rfl

/-- A conditional is gathered with its branches, each of which is shorter than the text. -/
theorem conditional {name : List Char} {lead : Nat} {body : Body}
    (hmark : Mark.read scope c cs = .conditional name lead body)
    (first : Follows limit .branch (offset + width (front ++ text) + lead) [] [] body.shown)
    (other
      : ∀ second ∈ body.otherwise,
          Follows limit .branch
            (offset + width (front ++ text) + lead + width body.shown + 2) [] [] second)
    (tail : ∀ mark, Follows limit scope offset (front ++ text ++ mark) [] body.rest)
    : Follows limit scope offset front text (c :: cs) := by
  intro fits
  obtain ⟨mark, behind, hcs, hwidth, hcut⟩ := split_of_read_conditional hmark
  obtain rfl := Body.text_append_rest_of_cut? hcut
  obtain ⟨shown, otherwise, compiles⟩ := Body.compiles_of_cut? hcut
  have hwhole : width (front ++ text ++ c :: cs)
      = width (front ++ text) + (width mark + (width body.text + width body.rest)) := by
    rw [← hcs, width_append (front ++ text), width_append mark, width_append body.text]
  have htaken : width (mark ++ body.text) = lead + width body.text := by
    rw [width_append, hwidth]
  have hfound
      : markAt? limit scope offset (front ++ text) (c :: cs)
        = .ok (some
          (.conditional (String.ofList name) shown otherwise, width (mark ++ body.text))) := by
    rw [markAt?, mark?_ofList fits, hmark, found?,
      branchesOf_piece (by omega) (by omega) compiles first other, htaken]
    rfl
  rw [← List.append_assoc] at hcs
  have hpos := (width_lt_text body).1
  refine Follows.mark hcs (by omega) hfound (fun _ _ _ h => by cases h) ?_
    (tail (mark ++ body.text)) fits
  rw [compileText_conditional hmark compiles.shown compiles.otherwise, htaken, Nat.add_assoc]

/-- A fault ends the reading. -/
theorem fault {mark : Mark} {e : MarkupError} (hmark : Mark.read scope c cs = mark)
    (found
      : ∀ inner,
          found? inner (offset + width (front ++ text)) mark = .error (.fault e))
    (compiled : compileText scope (offset + width (front ++ text)) (c :: cs) = .error e)
    : Follows limit scope offset front text (c :: cs) := by
  intro fits segments
  have hfound
      : markAt? limit scope offset (front ++ text) (c :: cs) = .error (.fault e) := by
    rw [markAt?, mark?_ofList fits, hmark, found]
  rw [segmentsFrom_error (starts_ofList _ _ _) hfound, compiled]
  rfl

end Follows

/-- The reader follows the compilation of a text and of each piece of it, by recursion on the
text behind the position.
-/
theorem follows (scope : Scope) (offset : Nat) (front text cs : List Char)
    : Follows limit scope offset front text cs := by
  cases cs with
  | nil => exact .nil
  | cons c cs =>
      have hleaves := Mark.read_leaves scope c cs
      cases hmark : Mark.read scope c cs with
      | text => exact .char hmark (follows scope offset front (text ++ [c]) cs)
      | value name rest =>
          rw [hmark] at hleaves
          have hrest : rest.length < (c :: cs).length := hleaves
          exact .value hmark fun mark => follows scope offset _ [] rest
      | conditional name lead body =>
          rw [hmark] at hleaves
          obtain ⟨hshown, hsecond, hrest⟩ := hleaves
          exact .conditional hmark (follows .branch _ [] [] body.shown)
            (fun second member => follows .branch _ [] [] second)
            (fun mark => follows scope offset _ [] body.rest)
      | unclosed name => exact .fault hmark (fun _ => rfl) (compileText_unclosed hmark)
      | strayElse => exact .fault hmark (fun _ => rfl) (compileText_strayElse hmark)
termination_by cs.length
decreasing_by
  all_goals subst_vars
  · simp
  · exact hrest
  · exact hshown
  · exact hsecond second member
  · exact hrest

/-- Reading by byte positions never traps. With numbers up to the size of a text, it comes to
what the text compiles to: the same template, or the same error.
-/
theorem read_eq_compile (limit : Nat) (raw : String) (fits : raw.utf8ByteSize ≤ limit)
    : read limit raw = (compile raw).mapError .fault
      ∧ ∀ cause, read limit raw ≠ .error (.trap cause) := by
  have hfits : 0 + width ([] ++ [] ++ raw.toList) ≤ limit := by
    rw [Nat.zero_add, List.append_nil, List.nil_append, ← utf8ByteSize_ofList,
      String.ofList_toList]
    exact fits
  have hread : read limit raw = (compile raw).mapError .fault := by
    have h
        : segmentsFrom limit .top (String.ofList raw.toList) 0 .empty 0 0
          = ((compileText .top 0 raw.toList).map fun segments => segments).mapError .fault :=
      follows .top 0 [] [] raw.toList hfits []
    rw [String.ofList_toList] at h
    rw [read, h, compile]
    cases compileText .top 0 raw.toList <;> rfl
  refine ⟨hread, fun cause htrap => ?_⟩
  rw [hread] at htrap
  cases h : compile raw <;> simp [h] at htrap

/-- Branches within branches, with letters of more than one byte on every side of the marks. -/
theorem read_eq_compile_nested
    : let raw := "é\x7b?a\tü\x7b?b ß[$c]!!d\x7d!!→\x7d✓"
      raw.utf8ByteSize ≤ 38
      ∧ read 38 raw
        = .ok {
            source := raw
            segments := [
              .literal "é",
              .conditional "a"
                [.literal "ü",
                  .conditional "b" [.literal "ß", .value "c"] (some [.literal "d"])]
                (some [.literal "→"]),
              .literal "✓"] }
      ∧ ∀ cause, read 38 raw ≠ .error (.trap cause) := by
  intro raw
  have hfits : raw.utf8ByteSize ≤ 38 := by decide +kernel
  have h := read_eq_compile 38 raw hfits
  refine ⟨hfits, h.1.trans ?_, h.2⟩
  rw [Outcome.mapError_eq_ok_iff]
  exact Outcome.eq_ok_of_toOption (by decide +kernel)

end MailMerge.Template.ByteReader

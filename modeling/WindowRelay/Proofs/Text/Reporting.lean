import WindowRelay.Proofs.Text.Rounding

/-!
# Reporting — what an input method is told about places in a text

A document answers in bytes, an input method is told in units.  What it is told leads back to the
place that was meant:

* `ConvertsBack`, `Indexes` — a range of units, or an index, stands for given bytes;
* `convertsBack_units` — so does every range that was counted from a part of the text;
* `reported_offsets_convert_back` — the selection, the composition, and the character at a point;
* `bounding_rect_covers_a_beginning` — the first line of a range, of which only the host knows where
  it ends.
-/

namespace WindowRelay
namespace InputMethod

open Editing

variable {K : Type} {e : Editor K} {bytes : ByteRange} {before inside after : Text}

/-! ## There and back -/

/-- Looked up again, the range is found at these bytes, and all of it is. -/
def ConvertsBack (e : Editor K) (r : TextRange) (bytes : ByteRange) : Prop :=
  ∃ found : Located, ((locate r).outcome e).value = .ok found ∧ found.bytes = bytes ∧
    found.actual = r

/-- The index is one of the text, splits no pair, and stands for the last boundary up to a byte
offset. -/
structure Indexes (e : Editor K) (n i : Nat) : Prop where
  le : n ≤ (Text.units e.document.text).length
  whole : ¬ Text.SplitsPair e.document.text n
  back : ∃ k, Text.FloorsTo e.document.text (min i e.document.length) k ∧
    ConvertsBack e ⟨n, 0⟩ (ByteRange.caret k)

theorem convertsBack_units (h : Text.Spans e.document.text bytes before inside after)
    (hlimit : Text.unitLength (before ++ inside) ≤ TextRange.limit) :
    ConvertsBack e ⟨Text.unitLength before, Text.unitLength inside⟩ bytes := by
  let units : TextRange := ⟨Text.unitLength before, Text.unitLength inside⟩
  have hstart : units.start ≤ TextRange.limit :=
    Nat.le_trans (Text.unitLength_le_append before inside) hlimit
  have hfound := (performs_locate hstart e).value
  rw [located_eq hstart, converted_units h hlimit] at hfound
  exact ⟨_, hfound, rfl, rfl⟩

theorem performs_textInRange_units (h : Text.Spans e.document.text bytes before inside after)
    (hlimit : Text.unitLength (before ++ inside) ≤ TextRange.limit) :
    Performs (textInRange ⟨Text.unitLength before, Text.unitLength inside⟩) e
      (inside, ⟨Text.unitLength before, Text.unitLength inside⟩) e.document := by
  let units : TextRange := ⟨Text.unitLength before, Text.unitLength inside⟩
  have hstart : units.start ≤ TextRange.limit :=
    Nat.le_trans (Text.unitLength_le_append before inside) hlimit
  have hperforms := performs_textInRange_converted (e := e) (s := inside) hstart
  rw [converted_units h hlimit] at hperforms
  exact hperforms h.slice?

/-- A text has no more units than bytes. -/
theorem unitLength_le_limit (hlength : e.document.length ≤ TextRange.limit)
    (h : Text.Spans e.document.text bytes before inside after) :
    Text.unitLength (before ++ inside) ≤ TextRange.limit := by
  calc
    Text.unitLength (before ++ inside) ≤ Text.byteLength (before ++ inside) :=
          Text.unitLength_le_byteLength _
    _ = bytes.stop := h.stop.symm
    _ ≤ e.document.length := h.isBoundary_stop.le_byteLength
    _ ≤ TextRange.limit := hlength

theorem indexes_floorTake (hlength : e.document.length ≤ TextRange.limit) (i : Nat) :
    Indexes e (Text.unitLength (Text.floorTake (min i e.document.length) e.document.text)) i := by
  have hfloors := Text.floorsTo_floorOffset (min i e.document.length) e.document.text
  rcases Text.floorTake_prefix (min i e.document.length) e.document.text with ⟨rest, hrest⟩
  have hsize := Text.byteLength_floorTake (min i e.document.length) e.document.text
  generalize Text.floorTake (min i e.document.length) e.document.text = before at hrest hsize ⊢
  have hspans : Text.Spans e.document.text (ByteRange.caret (Text.byteLength before)) before []
      rest :=
    ⟨by simpa using hrest.symm, rfl, by simp [ByteRange.caret]⟩
  -- A walk over the units of a beginning of the text arrives at its end.
  have hrounds := Text.roundsTo_unitTake (Text.unitLength before) e.document.text
  rw [← hrest, Text.unitTake_unitLength, hrest] at hrounds
  refine ⟨Nat.le_trans hrounds.le (Nat.min_le_right _ _), hrounds.whole, ?_⟩
  have hback := convertsBack_units hspans (unitLength_le_limit hlength hspans)
  -- An index is asked for as the empty range behind this beginning.
  have hempty : Text.unitLength [] = 0 := rfl
  rw [hempty] at hback
  rw [← hsize] at hfloors
  exact ⟨_, hfloors, hback⟩

/-- Whatever an input method is told of the selection, of the composition or of the character at a
point, it can ask for again: the document finds the same bytes, and nothing is rounded.  The text is
one whose bytes can be counted; a unit beyond all offsets could not be asked for. -/
theorem reported_offsets_convert_back (e : Editor K) (hvalid : e.document.Valid)
    (hlength : e.document.length ≤ TextRange.limit) :
    (∃ r, (step .selectedRange).run e =
          ⟨.ok (.range (some r)), e, ((step .selectedRange).run e).effects⟩ ∧
        ConvertsBack e r e.document.selection.sorted) ∧
      (∃ r, (step .composingRange).run e =
          ⟨.ok (.range r), e, ((step .composingRange).run e).effects⟩ ∧
        Option.Rel (ConvertsBack e) r e.document.composition) ∧
      ∀ p, ∃ n, (step (.characterIndex p)).run e =
          ⟨.ok (.index n), e, ((step (.characterIndex p)).run e).effects⟩ ∧
        Option.Rel (Indexes e) n (e.layout.indexAt e.document.text p) := by
  refine ⟨?_, ?_, ?_⟩
  -- A valid document selects and composes between boundaries, so the units of both are counted from
  -- parts of the text; a point is answered by a beginning of it.
  · rcases hvalid.covers_sorted.exists_spans with ⟨before, inside, after, hspans⟩
    have hanswer : Performs (answer .selectedRange) e (.range (some _)) e.document :=
      (performs_selectedRange hspans).bind (.pure _ e)
    exact ⟨_, hanswer.outcome_eq,
      convertsBack_units hspans (unitLength_le_limit hlength hspans)⟩
  · cases hc : e.document.composition with
    | none =>
        have hanswer : Performs (answer .composingRange) e (.range none) e.document :=
          (performs_composingRange_none hc).bind (.pure _ e)
        exact ⟨none, hanswer.outcome_eq, .none⟩
    | some composition =>
        rcases (hvalid.composition composition hc).exists_spans with
          ⟨before, inside, after, hspans⟩
        have hanswer : Performs (answer .composingRange) e (.range (some _)) e.document :=
          (performs_composingRange_some hc hspans).bind (.pure _ e)
        exact ⟨some _, hanswer.outcome_eq,
          .some (convertsBack_units hspans (unitLength_le_limit hlength hspans))⟩
  · intro p
    have hanswer : Performs (answer (.characterIndex p)) e (.index _) e.document :=
      (performs_characterIndex p e).bind (.pure _ e)
    refine ⟨_, hanswer.outcome_eq, ?_⟩
    cases e.layout.indexAt e.document.text p with
    | none =>
        exact .none
    | some i =>
        exact .some (indexes_floorTake hlength i)

/-- A backward selection that begins behind a pair, a composition of that pair, and a point whose
character is told by an offset inside of it. -/
theorem reported_offsets_convert_back_around_a_pair :
    let layout : Layout Float := { GridLayout.standard.toLayout with indexAt := fun _ _ => some 3 }
    let e : Editor Float := ⟨⟨['é', '😀', '日'], ⟨9, 6⟩, some ⟨2, 6⟩⟩, layout⟩
    let p : Point Float := ⟨0, 0⟩
    e.document.Valid ∧ e.document.length ≤ TextRange.limit ∧
      ((step .selectedRange).run e).value = .ok (.range (some ⟨3, 1⟩)) ∧
      ConvertsBack e ⟨3, 1⟩ ⟨6, 9⟩ ∧
      ((step .composingRange).run e).value = .ok (.range (some ⟨1, 2⟩)) ∧
      ConvertsBack e ⟨1, 2⟩ ⟨2, 6⟩ ∧
      ((step (.characterIndex p)).run e).value = .ok (.index (some 1)) ∧
      Indexes e 1 3 := by
  intro layout e p
  have hvalid : e.document.Valid := by decide
  have hlength : e.document.length ≤ TextRange.limit := by decide
  rcases reported_offsets_convert_back e hvalid hlength with
    ⟨⟨r, hselected, hselection⟩, ⟨composed, hcomposing, hcomposition⟩, hpoints⟩
  rcases hpoints p with ⟨n, hindex, hpoint⟩
  -- The three answers are computed; where they lead back to is what the theorem says.
  have hfirst : ((step .selectedRange).run e).value = .ok (.range (some ⟨3, 1⟩)) := rfl
  have hsecond : ((step .composingRange).run e).value = .ok (.range (some ⟨1, 2⟩)) := rfl
  have hthird : ((step (.characterIndex p)).run e).value = .ok (.index (some 1)) := rfl
  obtain rfl : ⟨3, 1⟩ = r := by
    simpa [hfirst] using congrArg Outcome.value hselected
  obtain rfl : some ⟨1, 2⟩ = composed := by
    simpa [hsecond] using congrArg Outcome.value hcomposing
  obtain rfl : some 1 = n := by
    simpa [hthird] using congrArg Outcome.value hindex
  cases hcomposition with
  | some hcomposition =>
      cases hpoint with
      | some hpoint =>
          exact ⟨hvalid, hlength, hfirst, hselection, hsecond, hcomposition, hthird, hpoint⟩

/-! ## First lines -/

/-- The rectangle of a range covers a first part of it.  This part starts where the range starts, and
ends where the host says, or at the nearer end of the range if that is outside.  It is what is found
when it is asked for again. -/
theorem bounding_rect_covers_a_beginning (e : Editor K) (r : TextRange) (hr : r.Fits)
    (hreported : ∀ bytes, Locates e r bytes →
      bytes.reaches (e.layout.bounds e.document.text bytes).2 = true →
        Text.IsBoundary e.document.text (e.layout.bounds e.document.text bytes).2) :
    let t := e.document.text
    let run := (step (.boundingRect r)).run e
    ∃ (bytes : ByteRange) (s covered : Text) (actual told : TextRange),
      let reported := e.layout.bounds t bytes
      Locates e r bytes ∧ .access (.bounds bytes) ∈ run.effects ∧
        ((step (.textInRange r)).run e).value = .ok (.text s actual) ∧
        run = ⟨.ok (.rect reported.1 told), e, run.effects⟩ ∧
        told.start = actual.start ∧ told.len ≤ actual.len ∧ covered <+: s ∧
        Text.slice? bytes.start (max bytes.start (min reported.2 bytes.stop)) t = some covered ∧
        (∃ before after, t = before ++ covered ++ after ∧
          (Text.units before).length = told.start ∧ (Text.units covered).length = told.len) ∧
        ((step (.textInRange told)).run e).value = .ok (.text covered told) ∧
        Effect.warnings run.effects =
          if bytes.start ≤ reported.2 ∧ reported.2 ≤ bytes.stop then []
          else [.boundsOutsideRange] := by
  intro t run
  have hfound := locates hr.1 e
  rcases performs_boundingRect hr.1 (hreported _ hfound) with
    ⟨before, covered, rest, after, hspans, hstop, hactual, hperforms⟩
  let bytes := (located r t).bytes
  let reported := e.layout.bounds t bytes
  let told : TextRange := ⟨Text.unitLength before, Text.unitLength covered⟩
  have hanswer : Performs (answer (.boundingRect r)) e (.rect reported.1 told) e.document :=
    hperforms.bind (.pure _ e)
  have hasked : Performs (answer (.textInRange r)) e
      (.text (covered ++ rest) (located r t).actual) e.document := by
    have hinside := hspans.slice?
    rw [located_eq hr.1] at hinside ⊢
    exact (performs_textInRange_converted hr.1 hinside).bind (.pure _ e)
  -- What is covered is a part of the text like any other, and ends no later than the range.
  have hcovered : Text.Spans t ⟨bytes.start, bytes.clamp reported.2⟩ before covered
      (rest ++ after) := by
    rw [hstop]
    exact hspans.front
  have hlimit : Text.unitLength (before ++ covered) ≤ TextRange.limit := by
    have hend := end_converted_le hr.1 t
    rw [← located_actual hr.1, hactual] at hend
    simp only [Text.unitLength_append] at hend ⊢
    omega
  have hagain : Performs (answer (.textInRange told)) e (.text covered told) e.document :=
    (performs_textInRange_units hcovered hlimit).bind (.pure _ e)
  have heffects : run.effects = ((locate r).outcome e).effects ++ .access (.bounds bytes) ::
      if bytes.reaches reported.2 then [] else [.warning .boundsOutsideRange] := by
    calc
      run.effects = ((boundingRect r).outcome e).effects ++ [] := hperforms.effects_bind
      _ = _ := by
            rw [List.append_nil, effects_boundingRect hr.1]
  refine ⟨bytes, covered ++ rest, covered, (located r t).actual, told, hfound, ?_, hasked.value,
    hanswer.outcome_eq, ?_, ?_, List.prefix_append _ _, hcovered.slice?, ?_, hagain.value, ?_⟩
  · simp [heffects]
  · rw [hactual]
  · rw [hactual]
    simp [told]
  · refine ⟨before, rest ++ after, hcovered.text, ?_, ?_⟩
    · exact Text.length_units before
    · exact Text.length_units covered
  · -- Looking the range up is silent, so the host's answer alone decides.
    have hread := Effect.warnings_of_reads (reading_locate r e)
    have hwarned (inside : Bool) : Effect.warnings (K := K) (.access (.bounds bytes) ::
        if inside then [] else [.warning .boundsOutsideRange]) =
          if inside then [] else [.boundsOutsideRange] := by
      cases inside <;> rfl
    rw [heffects, Effect.warnings_append, hread, hwarned]
    simp [ByteRange.reaches, reported]

/-- The first line ends behind a pair.  The range starts inside of the pair and goes on past the text,
and of it the pair alone is covered. -/
theorem bounding_rect_covers_a_pair :
    let layout := { GridLayout.standard with headEnd? := some 5 }.toLayout
    let e : Editor Float := ⟨Document.ofText ['a', '😀', 'b'], layout⟩
    let r : TextRange := ⟨2, 9⟩
    let run := (step (.boundingRect r)).run e
    r.Fits ∧
      (∀ bytes, Locates e r bytes →
        bytes.reaches (e.layout.bounds e.document.text bytes).2 = true →
          Text.IsBoundary e.document.text (e.layout.bounds e.document.text bytes).2) ∧
      (∃ rect, run.value = .ok (.rect rect ⟨1, 2⟩)) ∧
      ((step (.textInRange ⟨1, 2⟩)).run e).value = .ok (.text ['😀'] ⟨1, 2⟩) ∧
      Effect.warnings run.effects = [] := by
  intro layout e r run
  have hfits : r.Fits := by decide
  have hreported : ∀ bytes, Locates e r bytes →
      bytes.reaches (e.layout.bounds e.document.text bytes).2 = true →
        Text.IsBoundary e.document.text (e.layout.bounds e.document.text bytes).2 := by
    intro bytes _ _
    change Text.IsBoundary ['a', '😀', 'b'] 5
    decide
  rcases bounding_rect_covers_a_beginning e r hfits hreported with
    ⟨bytes, s, covered, actual, told, hlocates, -, -, hrun, -, -, -, hcovered, -, hagain,
      hwarnings⟩
  have hfound : ((locate r).outcome e).value =
      .ok ⟨⟨1, 6⟩, ⟨1, 3⟩, ['a', '😀', 'b']⟩ := rfl
  obtain rfl : ⟨1, 6⟩ = bytes := by
    rcases hlocates.found with ⟨l, hl, rfl⟩
    rw [hfound] at hl
    cases hl
    rfl
  obtain rfl : ['😀'] = covered := Option.some.inj hcovered
  have hvalue : run.value = .ok (.rect (layout.bounds e.document.text ⟨1, 6⟩).1 ⟨1, 2⟩) := rfl
  have hsame := hvalue.symm.trans (congrArg Outcome.value hrun)
  obtain rfl : ⟨1, 2⟩ = told := (Reply.rect.inj (Except.ok.inj hsame)).2
  have hinside : 1 ≤ 5 ∧ 5 ≤ 6 := by decide
  exact ⟨hfits, hreported, ⟨_, hvalue⟩, hagain, hwarnings.trans (if_pos hinside)⟩

end InputMethod
end WindowRelay

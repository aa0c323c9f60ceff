import WindowRelay.Proofs.Text.Rounding

/-!
# Relative ranges — ranges inside a text of their own

The range that a step replaces in a composition, and the range that it selects in its new text, are
looked up in a text of their own.  There the start is rounded down first, and the length counts from
where it was rounded to.  A range of the whole text has both ends rounded, each by itself.

* `TextRange.FallsShort` — where this makes a difference: the start splits a pair, the end does not;
* `bytesWithin_eq`, `bytesWithin_eq_iff` — the two conversions compared;
* `relative_ranges_keep_their_length` — what a step of a composition replaces and selects;
* `relative_range_misses_its_end` — a step whose ranges stop one character early.
-/

namespace WindowRelay

/-- The range starts inside a pair of the text and ends between two of its characters.  Counted from
the start of the pair, its length stops one unit before its end. -/
def TextRange.FallsShort (r : TextRange) (t : Text) : Prop :=
  Text.SplitsPair t r.start ∧ r.start + r.len ≤ (Text.units t).length ∧
    ¬ Text.SplitsPair t (r.start + r.len)

instance (r : TextRange) (t : Text) : Decidable (r.FallsShort t) :=
  inferInstanceAs (Decidable (_ ∧ _ ∧ _))

namespace InputMethod

open Editing

variable {K : Type} {r : TextRange} {t : Text}

/-! ## The two conversions -/

/-- The second walk goes on from where the first one stopped, wherever it was sent. -/
theorem bytesWithin_eq (r : TextRange) (t : Text) :
    bytesWithin r t =
      ⟨Text.byteLength (Text.unitTake r.start t),
        Text.byteLength
          (Text.unitTake (Text.unitLength (Text.unitTake r.start t) + r.len) t)⟩ := by
  have hwhole := Text.unitTake_append_unitTake (t := t) (m := r.start)
    (p := Text.unitLength (Text.unitTake r.start t) + r.len) (Nat.le_add_right _ _)
  rw [Nat.add_sub_cancel_left] at hwhole
  simp only [bytesWithin, hwhole]

/-- Both ends of a range in a text that is no longer than offsets reach. -/
theorem converted_fst (hr : r.start ≤ TextRange.limit)
    (ht : Text.unitLength t ≤ TextRange.limit) :
    (converted r t).1 =
      ⟨Text.byteLength (Text.unitTake r.start t),
        Text.byteLength (Text.unitTake (r.start + r.len) t)⟩ := by
  rw [converted_eq hr, TextRange.stop, Text.unitTake_min ht]

/-- The length is kept: the range is the one of the same length at the rounded start. -/
theorem bytesWithin_eq_converted (hr : r.start ≤ TextRange.limit)
    (ht : Text.unitLength t ≤ TextRange.limit) :
    bytesWithin r t = (converted ⟨(converted r t).2.start, r.len⟩ t).1 := by
  let moved : TextRange := ⟨(converted r t).2.start, r.len⟩
  have hmoved : moved.start ≤ TextRange.limit :=
    Nat.le_trans (Text.unitLength_unitTake_le r.start t) hr
  have hstart : Text.unitTake moved.start t = Text.unitTake r.start t :=
    Text.unitTake_unitTake r.start t
  change bytesWithin r t = (converted moved t).1
  rw [converted_fst hmoved ht, bytesWithin_eq, hstart]
  rfl

/-- The end is kept too, unless the range falls short. -/
theorem bytesWithin_eq_iff (hr : r.start ≤ TextRange.limit)
    (ht : Text.unitLength t ≤ TextRange.limit) :
    bytesWithin r t = (converted r t).1 ↔ ¬ r.FallsShort t := by
  have hle : Text.unitLength (Text.unitTake r.start t) ≤ r.start :=
    Text.unitLength_unitTake_le r.start t
  have hends : bytesWithin r t = (converted r t).1 ↔
      Text.unitLength (Text.unitTake (Text.unitLength (Text.unitTake r.start t) + r.len) t) =
        Text.unitLength (Text.unitTake (r.start + r.len) t) := by
    rw [bytesWithin_eq, converted_fst hr ht,
      ← Text.byteLength_unitTake_eq_iff (Nat.add_le_add_right hle r.len)]
    simp
  rw [hends]
  by_cases hsplits : Text.SplitsPair t r.start
  · -- The start moves by one unit, and so does the end that is looked for.
    have hstart := hsplits.unitLength_unitTake
    have hend : r.start + r.len = Text.unitLength (Text.unitTake r.start t) + r.len + 1 := by
      omega
    rw [TextRange.FallsShort, hend, Text.unitLength_unitTake_succ, Text.length_units]
    simp [hsplits]
  · have hshort : ¬ r.FallsShort t := fun h => hsplits h.1
    simp only [hshort, not_false_eq_true, iff_true]
    by_cases hin : r.start ≤ Text.unitLength t
    · rw [(Text.not_splitsPair_iff hin).1 hsplits]
    · -- A range behind the text is empty at its end.
      have hpast : Text.unitLength t ≤ r.start := Nat.le_of_not_le hin
      rw [Text.unitTake_eq_self hpast, Text.unitTake_eq_self (Nat.le_add_right _ _),
        Text.unitTake_eq_self (Nat.le_trans hpast (Nat.le_add_right _ _))]

/-! ## Steps of a composition -/

/-- A part of the text of `e` starts where the document finds the start of `r`, and it is all that
the document finds for `r` unless `r` falls short.  In any case it is what the document finds for
the range of the same length at the rounded start. -/
def KeepsLength (e : Editor K) (r : TextRange) (part : ByteRange) : Prop :=
  ∃ found moved : Located,
    ((locate r).outcome e).value = .ok found ∧
      ((locate ⟨found.actual.start, r.len⟩).outcome e).value = .ok moved ∧
      part.start = found.bytes.start ∧
      (part = found.bytes ↔ ¬ r.FallsShort e.document.text) ∧
      part = moved.bytes

theorem keepsLength_bytesWithin (hr : r.start ≤ TextRange.limit)
    (ht : Text.unitLength t ≤ TextRange.limit) {e : Editor K} (he : e.document.text = t) :
    KeepsLength e r (bytesWithin r t) := by
  subst he
  let t := e.document.text
  let moved : TextRange := ⟨(converted r t).2.start, r.len⟩
  have hmoved : moved.start ≤ TextRange.limit :=
    Nat.le_trans (Text.unitLength_unitTake_le r.start t) hr
  have hfound := (performs_locate hr e).value
  have hlocated := (performs_locate hmoved e).value
  rw [located_eq hr] at hfound
  rw [located_eq hmoved] at hlocated
  exact ⟨_, _, hfound, hlocated, rfl, bytesWithin_eq_iff hr ht, bytesWithin_eq_converted hr ht⟩

/-- A step of a composition replaces a part of the composed text, and selects a part of its new
text.  Both have the start and the length of the range they were asked for, each with its start
rounded down. -/
theorem relative_ranges_keep_their_length (e : Editor K) (hvalid : e.document.Valid)
    (composition : ByteRange) (hcomposition : e.document.composition = some composition)
    (composed : Text)
    (hcomposed : Text.slice? composition.start composition.stop e.document.text = some composed)
    (text : Text) (selection replacement : TextRange) (hselection : selection.Fits)
    (hreplacement : replacement.Fits) (hshort : Text.unitLength composed ≤ TextRange.limit)
    (htext : Text.unitLength text ≤ TextRange.limit) :
    ∃ (replaced selected : ByteRange) (d : Document),
      (step (.setComposingText text selection (some replacement))).run e =
          ⟨.ok .done, { e with document := d },
            ((step (.setComposingText text selection (some replacement))).run e).effects⟩ ∧
        some d.text = Text.replace? (composition.start + replaced.start)
          (composition.start + replaced.stop) text e.document.text ∧
        d.selection = selected.shift (composition.start + replaced.start) ∧
        (∀ e' : Editor K, e'.document.text = composed → KeepsLength e' replacement replaced) ∧
        (∀ e' : Editor K, e'.document.text = text → KeepsLength e' selection selected) := by
  let replaced := bytesWithin replacement composed
  have hranges : composingRanges e.document (some replacement) =
      (composition, replaced.shift composition.start) := by
    simp only [composingRanges, hcomposition, hcomposed, Option.getD_some, replaced]
  rcases composingRanges_spans hvalid (some replacement) with
    ⟨before, left, middle, right, after, houter, hinner⟩
  have hperforms := performs_setComposingText hvalid (by simp [hcomposition]) text selection
    houter hinner
  have hreply : Performs (answer (.setComposingText text selection (some replacement))) e .done _ :=
    hperforms.bind (.pure _ _)
  rw [hranges] at hinner
  have hplace : Text.byteLength (before ++ left) = composition.start + replaced.start :=
    hinner.start.symm
  have hwritten := hinner.replace? text
  refine ⟨replaced, bytesWithin selection text, _, hreply.outcome_eq, ?_, ?_, ?_, ?_⟩
  · calc
      some (before ++ (left ++ text ++ right) ++ after)
          = some (before ++ left ++ text ++ (right ++ after)) := by simp
      _ = Text.replace? (composition.start + replaced.start)
            (composition.start + replaced.stop) text e.document.text := hwritten.symm
  · rw [hplace]
    rfl
  · exact fun e' he' => keepsLength_bytesWithin hreplacement.1 hshort he'
  · exact fun e' he' => keepsLength_bytesWithin hselection.1 htext he'

/-- Two units from the middle of a pair on, to the end of a composition. -/
theorem relative_ranges_keep_their_length_in_a_pair :
    let e : Editor Float :=
      ⟨⟨['x', 'a', '😀', 'b'], ⟨0, 0⟩, some ⟨1, 7⟩⟩, GridLayout.standard.toLayout⟩
    let inner : Editor Float := ⟨Document.ofText ['a', '😀', 'b'], e.layout⟩
    let r : TextRange := ⟨2, 2⟩
    let d := ((step (.setComposingText ['z'] ⟨0, 1⟩ (some r))).run e).state.document
    e.document.Valid ∧ e.document.composition = some ⟨1, 7⟩ ∧
      Text.slice? 1 7 e.document.text = some ['a', '😀', 'b'] ∧ r.Fits ∧
      r.FallsShort ['a', '😀', 'b'] ∧
      ∃ replaced, KeepsLength inner r replaced ∧
        some d.text = Text.replace? (1 + replaced.start) (1 + replaced.stop) ['z']
          e.document.text := by
  intro e inner r d
  have hvalid : e.document.Valid := by
    refine ⟨by decide, by decide, ?_⟩
    intro range hrange
    cases hrange
    decide
  have hcomposed : Text.slice? 1 7 e.document.text = some ['a', '😀', 'b'] := by decide
  have hfits : r.Fits := by decide
  rcases relative_ranges_keep_their_length e hvalid ⟨1, 7⟩ rfl ['a', '😀', 'b'] hcomposed
    ['z'] ⟨0, 1⟩ r (by decide) hfits (by decide) (by decide) with
    ⟨replaced, selected, d', hrun, hwritten, -, hkept, -⟩
  have hd : d = d' := congrArg (fun o => o.state.document) hrun
  subst hd
  exact ⟨hvalid, rfl, hcomposed, hfits, by decide, replaced, hkept inner rfl, hwritten⟩

/-- A range of one unit from the middle of a pair ends with the pair.  As a range of the document it
stands for the pair, and both as what a step replaces in its composition and as what it selects in
its text it stands for nothing. -/
theorem relative_range_misses_its_end :
    let layout := GridLayout.standard.toLayout
    let e : Editor Float := ⟨⟨['😀', 'b'], ⟨5, 5⟩, some ⟨0, 5⟩⟩, layout⟩
    let r : TextRange := ⟨1, 1⟩
    let text : Text := ['😀', 'c']
    let d := ((step (.setComposingText text r (some r))).run e).state.document
    (((locate r).outcome e).value.toOption.map Located.bytes = some ⟨0, 4⟩ ∧
        Text.replace? 0 4 text e.document.text = some ['😀', 'c', 'b'] ∧
        d.text = ['😀', 'c', '😀', 'b']) ∧
      ((locate r).outcome ⟨Document.ofText text, layout⟩).value.toOption.map Located.bytes =
          some ⟨0, 4⟩ ∧
        d.selection = ⟨0, 0⟩ := by
  decide

end InputMethod
end WindowRelay

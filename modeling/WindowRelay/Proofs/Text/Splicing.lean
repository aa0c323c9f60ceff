import WindowRelay.Proofs.Text.Locating
import WindowRelay.Proofs.Text.Reading

/-!
# Splicing — what the two writing operations leave behind

`insertText` and `setComposingText` put a text in the place of a range.  With the document cut
around that range, this file says which document each of them leaves, and by which requests:

* `insertionRange`, `writes_insertText` — a commit;
* `composingRanges`, `writes_setComposingText` — a step of a composition, whose result is a
  `Document.composing`.

A valid document stays valid under both.
-/

namespace WindowRelay

namespace Document

variable {d : Document} {before inside after : Text}

/-- What the next commit or composition replaces when it is not told. -/
def target (d : Document) : ByteRange :=
  d.composition.getD d.selection.sorted

theorem Valid.covers_sorted (h : d.Valid) : d.Covers d.selection.sorted := by
  rcases h with ⟨hstart, hstop, _⟩
  unfold ByteRange.sorted
  split
  · rename_i hle
    exact ⟨hle, hstart, hstop⟩
  · rename_i hgt
    refine ⟨?_, hstop, hstart⟩
    change d.selection.stop ≤ d.selection.start
    omega

theorem Valid.covers_target (h : d.Valid) : d.Covers d.target := by
  cases hc : d.composition with
  | none =>
      simpa [target, hc] using h.covers_sorted
  | some r =>
      simpa [target, hc] using h.composition r hc

/-- A document with a composition between two texts, and none when there is nothing in it. -/
def composing (before composed after : Text) (selection : ByteRange) : Document :=
  ⟨before ++ composed ++ after, selection,
    if composed = [] then none
    else some ⟨Text.byteLength before, Text.byteLength (before ++ composed)⟩⟩

end Document

namespace InputMethod

open Editing

variable {K : Type} {e : Editor K} {before inside after : Text}

/-! ## Commits -/

def insertionRange (d : Document) : Option TextRange → ByteRange
  | none => d.target
  | some r => (located r d.text).bytes

theorem covers_insertionRange {d : Document} (h : d.Valid) (replacement : Option TextRange) :
    d.Covers (insertionRange d replacement) := by
  cases replacement with
  | none =>
      exact h.covers_target
  | some r =>
      exact covers_located r d

theorem writes_insertionTarget {replacement : Option TextRange}
    (hr : ∀ r ∈ replacement, r.start ≤ TextRange.limit) (e : Editor K) :
    Writes (insertionTarget replacement) e (insertionRange e.document replacement)
      e.document [] := by
  have hdocument := (performs_document e).reading .document
  cases replacement with
  | none =>
      exact hdocument.bind (.pure _ e)
  | some r =>
      have hlocate := (performs_locate (hr r rfl) e).reading (reading_locate r)
      exact hdocument.bind ((writes_warnIf _ _ e).bind (hlocate.bind (.pure _ e)))

theorem writes_insertText {replacement : Option TextRange} {text : Text}
    (hr : ∀ r ∈ replacement, r.start ≤ TextRange.limit) (ht : Text.isInsertable text = true)
    (h : Text.Spans e.document.text (insertionRange e.document replacement) before inside after) :
    Writes (insertText text replacement) e true
      ⟨before ++ text ++ after, ByteRange.caret (Text.byteLength (before ++ text)), none⟩
      [.replace (insertionRange e.document replacement) text, .setComposition none,
        .setSelection (ByteRange.caret (Text.byteLength (before ++ text)))] := by
  -- The selection is stale until the last request, which is why only the caret is shown to fit.
  let committed : Document := ⟨before ++ text ++ after, e.document.selection, none⟩
  have hcaret : committed.Covers (ByteRange.caret (Text.byteLength (before ++ text))) := by
    have hend := Text.isBoundary_append (before ++ text) after
    exact ⟨Nat.le_refl _, hend, hend⟩
  have hplace : (insertionRange e.document replacement).start + Text.byteLength text =
      Text.byteLength (before ++ text) := by
    rw [h.start, Text.byteLength_append]
  rw [insertText, if_pos ht]
  refine (writes_insertionTarget hr e).bind ?_
  refine (writes_replace (Document.covers_of_spans h) (h.replace? text)).bind ?_
  refine (writes_setComposition (r := none) trivial).bind ?_
  rw [hplace]
  exact (writes_setSelection hcaret).bind (.pure _ _)

theorem performs_insertText {replacement : Option TextRange} {text : Text}
    (hr : ∀ r ∈ replacement, r.start ≤ TextRange.limit) (ht : Text.isInsertable text = true)
    (h : Text.Spans e.document.text (insertionRange e.document replacement) before inside after) :
    Performs (insertText text replacement) e true
      ⟨before ++ text ++ after, ByteRange.caret (Text.byteLength (before ++ text)), none⟩ :=
  (writes_insertText hr ht h).toPerforms

/-- Nothing is asked of the document when a text is refused. -/
theorem outcome_insertText_refused {replacement : Option TextRange} {text : Text}
    (ht : Text.isInsertable text = false) (e : Editor K) :
    (insertText text replacement).outcome e =
      ⟨.ok false, e, [.warning .controlCharacterRefused]⟩ := by
  have hno : ¬ Text.isInsertable text = true := by
    simp [ht]
  rw [insertText, if_neg hno]
  rfl

theorem performs_insertText_refused {replacement : Option TextRange} {text : Text}
    (ht : Text.isInsertable text = false) (e : Editor K) :
    Performs (insertText text replacement) e false e.document := by
  have hrefused : (insertText text replacement).outcome e = _ := outcome_insertText_refused ht e
  refine ⟨?_, ?_, ?_⟩
  · rw [hrefused]
  · rw [hrefused]
  · rw [hrefused]
    exact .done _

/-! ## Steps of a composition -/

/-- The composition before a step, and the part of it that the step replaces. -/
def composingRanges (d : Document) (replacement : Option TextRange) : ByteRange × ByteRange :=
  match d.composition, replacement with
  | some composition, none => (composition, composition)
  | some composition, some r =>
      let composed := (Text.slice? composition.start composition.stop d.text).getD []
      (composition, (bytesWithin r composed).shift composition.start)
  | none, none => (d.selection.sorted, d.selection.sorted)
  | none, some r => ((located r d.text).bytes, (located r d.text).bytes)

theorem composingRanges_fst_eq_target {d : Document} {replacement : Option TextRange}
    (h : replacement = none ∨ d.composition.isSome) :
    (composingRanges d replacement).1 = d.target := by
  unfold composingRanges Document.target
  cases hc : d.composition with
  | none =>
      have hnone : replacement = none := by
        simpa [hc] using h
      subst hnone
      rfl
  | some composition =>
      cases replacement with
      | none =>
          rfl
      | some r =>
          rfl

theorem performs_composingTarget (hvalid : e.document.Valid) {replacement : Option TextRange}
    (hr : ∀ r ∈ replacement, e.document.composition = none → r.start ≤ TextRange.limit) :
    Performs (composingTarget replacement) e (composingRanges e.document replacement)
      e.document := by
  refine (performs_document e).bind ?_
  unfold composingRanges
  cases hc : e.document.composition with
  | none =>
      cases replacement with
      | none =>
          exact .pure _ e
      | some r =>
          exact (performs_locate (hr r rfl hc) e).bind (.pure _ e)
  | some composition =>
      cases replacement with
      | none =>
          exact .pure _ e
      | some r =>
          have hcovers := hvalid.composition composition hc
          -- The replacement counts from the start of the composition, so it is looked up in the
          -- composed text alone.
          rcases hcovers.exists_spans with ⟨before, composed, after, hspans⟩
          have hslice := hspans.slice?
          simp only [hslice, Option.getD_some]
          refine (performs_slice hcovers hslice).bind ?_
          exact (performs_within r composed e).bind (.pure _ e)

/-- The two ranges of a step cut the document in five. -/
theorem composingRanges_spans {d : Document} (hvalid : d.Valid) (replacement : Option TextRange) :
    ∃ before left middle right after,
      Text.Spans d.text (composingRanges d replacement).1 before (left ++ middle ++ right) after ∧
        Text.Spans d.text (composingRanges d replacement).2 (before ++ left) middle
          (right ++ after) := by
  -- In three of the four cases the step replaces all of the range it composes in.
  have hsame : ∀ r, d.Covers r → ∃ before left middle right after,
      Text.Spans d.text r before (left ++ middle ++ right) after ∧
        Text.Spans d.text r (before ++ left) middle (right ++ after) := by
    intro r hr
    rcases hr.exists_spans with ⟨before, middle, after, h⟩
    exact ⟨before, [], middle, [], after, by simpa using h, by simpa using h⟩
  unfold composingRanges
  cases hc : d.composition with
  | none =>
      cases replacement with
      | none =>
          exact hsame _ hvalid.covers_sorted
      | some r =>
          exact hsame _ (covers_located r d)
  | some composition =>
      have hcovers := hvalid.composition composition hc
      cases replacement with
      | none =>
          exact hsame _ hcovers
      | some r =>
          rcases hcovers.exists_spans with ⟨before, composed, after, h⟩
          -- The part that is replaced cuts the composition in three.
          have hpart := spans_bytesWithin r composed
          have houter := h
          rw [hpart.text] at houter
          simp only [h.slice?, Option.getD_some]
          refine ⟨before, _, _, _, after, houter, houter.nested ?_ ?_⟩
          · simp [ByteRange.shift, hpart.start]
          · simp [ByteRange.shift, hpart.stop]

theorem legal_composing (before composed after : Text) (selection : ByteRange) :
    (Access.setComposition
        (Document.composing before composed after selection).composition).Legal
      (Document.composing before composed after selection) := by
  have h : Text.Spans (before ++ composed ++ after)
      ⟨Text.byteLength before, Text.byteLength (before ++ composed)⟩ before composed after :=
    ⟨rfl, rfl, rfl⟩
  unfold Document.composing
  split
  · exact trivial
  · exact Document.covers_of_spans h

/-- A selection inside the new part of a composition. -/
theorem covers_shift_bytesWithin (selection : TextRange) (before text after : Text) {d : Document}
    (h : d.text = before ++ text ++ after) :
    d.Covers ((bytesWithin selection text).shift (Text.byteLength before)) := by
  have hpart := spans_bytesWithin selection text
  have houter : Text.Spans d.text
      ⟨Text.byteLength before, Text.byteLength (before ++ text)⟩ before text after :=
    ⟨h, rfl, rfl⟩
  rw [hpart.text] at houter
  refine Document.covers_of_spans (houter.nested ?_ ?_)
  · simp [ByteRange.shift, hpart.start]
  · simp [ByteRange.shift, hpart.stop]

theorem composition_composing (before composed after : Text) (selection : ByteRange) :
    (Document.composing before composed after selection).composition =
      if (ByteRange.mk (Text.byteLength before) (Text.byteLength (before ++ composed))).isEmpty
      then none
      else some ⟨Text.byteLength before, Text.byteLength (before ++ composed)⟩ := by
  have hempty : Text.byteLength (before ++ composed) ≤ Text.byteLength before ↔
      composed = [] := by
    rw [← Text.byteLength_eq_zero_iff, Text.byteLength_append]
    omega
  simp only [Document.composing, ByteRange.isEmpty, decide_eq_true_eq, hempty]

theorem writes_setComposingText (hvalid : e.document.Valid) {replacement : Option TextRange}
    (hr : ∀ r ∈ replacement, e.document.composition = none → r.start ≤ TextRange.limit)
    (text : Text) (selection : TextRange) {before left middle right after : Text}
    (houter : Text.Spans e.document.text (composingRanges e.document replacement).1 before
      (left ++ middle ++ right) after)
    (hinner : Text.Spans e.document.text (composingRanges e.document replacement).2
      (before ++ left) middle (right ++ after)) :
    let d := Document.composing before (left ++ text ++ right) after
      ((bytesWithin selection text).shift (Text.byteLength (before ++ left)))
    Writes (setComposingText text selection replacement) e () d
      [.replace (composingRanges e.document replacement).2 text, .setComposition d.composition,
        .setSelection d.selection] := by
  have htarget := (performs_composingTarget hvalid hr).reading (reading_composingTarget _)
  -- Only how the two ranges cut the document matters from here on.
  generalize composingRanges e.document replacement = ranges at htarget houter hinner
  rcases ranges with ⟨outer, inner⟩
  let composed := left ++ text ++ right
  have hreplace : Text.replace? inner.start inner.stop text e.document.text =
      some (before ++ composed ++ after) := by
    have h := hinner.replace? text
    simpa [composed] using h
  have hfirst : outer.start = Text.byteLength before := houter.start
  have hpart : inner.start = Text.byteLength (before ++ left) := hinner.start
  -- What the step keeps of the composition, and how long it is with the new text in it.
  have hkept : inner.length + Text.byteLength (before ++ left ++ right) = outer.stop := by
    rw [hinner.length_eq, houter.stop]
    simp
    omega
  have hstop : Text.byteLength (before ++ left ++ right) + Text.byteLength text =
      Text.byteLength (before ++ composed) := by
    simp [composed]
    omega
  have hselection : (Document.composing before composed after e.document.selection).Covers
      ((bytesWithin selection text).shift (Text.byteLength (before ++ left))) :=
    covers_shift_bytesWithin selection (before ++ left) text (right ++ after)
      (by simp [Document.composing, composed])
  refine htarget.bind ?_
  refine (writes_replace (Document.covers_of_spans hinner) hreplace).bind ?_
  refine ((performs_subtract hkept _).reading (.subtract _ _)).bind ?_
  simp only [hstop, hfirst, hpart]
  rw [← composition_composing before composed after e.document.selection]
  refine (writes_setComposition (legal_composing before composed after _)).bind ?_
  refine ((performs_within selection text _).reading (reading_within _ _)).bind ?_
  exact writes_setSelection hselection

theorem performs_setComposingText (hvalid : e.document.Valid) {replacement : Option TextRange}
    (hr : ∀ r ∈ replacement, e.document.composition = none → r.start ≤ TextRange.limit)
    (text : Text) (selection : TextRange) {before left middle right after : Text}
    (houter : Text.Spans e.document.text (composingRanges e.document replacement).1 before
      (left ++ middle ++ right) after)
    (hinner : Text.Spans e.document.text (composingRanges e.document replacement).2
      (before ++ left) middle (right ++ after)) :
    Performs (setComposingText text selection replacement) e ()
      (.composing before (left ++ text ++ right) after
        ((bytesWithin selection text).shift (Text.byteLength (before ++ left)))) :=
  (writes_setComposingText hvalid hr text selection houter hinner).toPerforms

/-! ## Validity -/

theorem valid_committed (before text after : Text) :
    Document.Valid ⟨before ++ text ++ after,
      ByteRange.caret (Text.byteLength (before ++ text)), none⟩ := by
  have hend := Text.isBoundary_append (before ++ text) after
  exact ⟨hend, hend, by simp⟩

theorem valid_composing {before composed after : Text} {selection : ByteRange}
    (h : (Document.composing before composed after selection).Covers selection) :
    (Document.composing before composed after selection).Valid := by
  rcases h with ⟨_, hstart, hstop⟩
  refine ⟨hstart, hstop, ?_⟩
  intro r hr
  have hlegal := legal_composing before composed after selection
  rw [hr] at hlegal
  exact hlegal

end InputMethod
end WindowRelay

import WindowRelay.Proofs.Text.Locating
import WindowRelay.Proofs.Text.Splicing
import WindowRelay.Text.GridLayout

/-!
# Asking — what the questions of an input method are answered

The operations of `WindowRelay.InputMethod` that write nothing.  Each statement gives the answer
in terms of the pieces of the document around the range in question.
-/

namespace WindowRelay

/-- A host that reports an end inside the range it was asked for reports a boundary. -/
def Layout.Sound {K : Type} (l : Layout K) : Prop :=
  ∀ (t : Text) (r : ByteRange), r.start ≤ r.stop → Text.IsBoundary t r.start →
    Text.IsBoundary t r.stop → r.reaches (l.bounds t r).2 → Text.IsBoundary t (l.bounds t r).2

/-- A grid whose answers are not fixed in advance ends its lines at boundaries. -/
theorem GridLayout.toLayout_sound {g : GridLayout} (h : g.headEnd? = none) : g.toLayout.Sound := by
  intro t r hle hstart hstop hreaches
  simp only [toLayout, bounds, h, Option.getD_none, lineEnd]
  split
  · exact hstop
  · -- A broken line ends where the text is rounded down, and an empty one at its start.
    have hbroken := Text.isBoundary_floorOffset
      (min r.stop ((r.start / g.lineBytes + 1) * g.lineBytes)) t
    rw [Nat.max_def]
    split
    · exact hbroken
    · exact hstart

namespace InputMethod

open Editing

variable {K : Type} {e : Editor K} {before inside after : Text}

theorem performs_selectedRange
    (h : Text.Spans e.document.text e.document.selection.sorted before inside after) :
    Performs selectedRange e ⟨Text.unitLength before, Text.unitLength inside⟩ e.document :=
  (performs_document e).bind (performs_toUnits h)

theorem performs_composingRange_none (h : e.document.composition = none) :
    Performs composingRange e none e.document := by
  refine (performs_document e).bind ?_
  simp only [h]
  exact .pure none e

theorem performs_composingRange_some {r : ByteRange} (hr : e.document.composition = some r)
    (h : Text.Spans e.document.text r before inside after) :
    Performs composingRange e (some ⟨Text.unitLength before, Text.unitLength inside⟩)
      e.document := by
  refine (performs_document e).bind ?_
  simp only [hr]
  exact (performs_toUnits h).bind (.pure _ e)

theorem performs_textInRange {r : TextRange} (hr : r.start ≤ TextRange.limit)
    (h : Text.Spans (opening r e.document.text) (located r e.document.text).bytes before inside
      after) :
    Performs (textInRange r) e (inside, (located r e.document.text).actual) e.document := by
  refine (performs_locate hr e).bind ?_
  exact (performs_expect h.slice? e).bind (.pure _ e)

/-- An offset moved into a range of boundaries is one, if it is one where it is not moved. -/
theorem isBoundary_clamp {d : Document} {r : ByteRange} (hr : d.Covers r) {n : Nat}
    (hn : r.reaches n = true → Text.IsBoundary d.text n) : Text.IsBoundary d.text (r.clamp n) := by
  rcases hr with ⟨hle, hstart, hstop⟩
  by_cases hin : r.start ≤ n ∧ n ≤ r.stop
  · have hclamp : r.clamp n = n := by
      unfold ByteRange.clamp
      omega
    have hreaches : r.reaches n = true := by
      simpa [ByteRange.reaches] using hin
    rw [hclamp]
    exact hn hreaches
  · have hends : r.clamp n = r.start ∨ r.clamp n = r.stop := by
      unfold ByteRange.clamp
      omega
    rcases hends with h | h
    · rw [h]
      exact hstart
    · rw [h]
      exact hstop

theorem performs_boundingRect {r : TextRange} (hr : r.start ≤ TextRange.limit)
    (hreported : (located r e.document.text).bytes.reaches
        (e.layout.bounds e.document.text (located r e.document.text).bytes).2 = true →
      Text.IsBoundary e.document.text
        (e.layout.bounds e.document.text (located r e.document.text).bytes).2) :
    ∃ before covered rest after,
      Text.Spans e.document.text (located r e.document.text).bytes before (covered ++ rest) after ∧
        (located r e.document.text).bytes.clamp
            (e.layout.bounds e.document.text (located r e.document.text).bytes).2 =
          Text.byteLength (before ++ covered) ∧
        (located r e.document.text).actual =
          ⟨Text.unitLength before, Text.unitLength (covered ++ rest)⟩ ∧
        Performs (boundingRect r) e
          ((e.layout.bounds e.document.text (located r e.document.text).bytes).1,
            ⟨Text.unitLength before, Text.unitLength covered⟩) e.document := by
  rcases located_spans r e.document.text with
    ⟨before, inside, after, rest, hopening, hspans, hactual⟩
  let bytes := (located r e.document.text).bytes
  let stop := bytes.clamp (e.layout.bounds e.document.text bytes).2
  have hcovers : e.document.Covers bytes := covers_located r e.document
  have hboundary : Text.IsBoundary e.document.text stop := isBoundary_clamp hcovers hreported
  have hle : bytes.start ≤ stop := by
    exact Nat.le_max_left _ _
  have hge : stop ≤ bytes.stop := by
    have horder := hcovers.1
    simp only [stop, ByteRange.clamp]
    omega
  -- The part of the range that is covered is cut off at the reported end.
  rcases hspans.exists_split hboundary hle hge with ⟨covered, left, rfl, hstop⟩
  have hcovered : Text.slice? bytes.start stop (opening r e.document.text) = some covered := by
    rw [hstop]
    exact hopening.front.slice?
  have hunits : (located r e.document.text).actual.start = Text.unitLength before := by
    rw [hactual]
  refine ⟨before, covered, left, after ++ rest, hspans, hstop, hactual, ?_⟩
  rw [← hunits]
  refine (performs_locate hr e).bind ?_
  refine (performs_bounds hcovers).bind ?_
  refine (performs_warnIf _ _ e).bind ?_
  exact (performs_expect hcovered e).bind (.pure _ e)

/-- Once the range is found the host is asked for its first line, and the only complaint is about an
end that has to be moved. -/
theorem effects_boundingRect {r : TextRange} (hr : r.start ≤ TextRange.limit) (e : Editor K) :
    ((boundingRect r).outcome e).effects =
      ((locate r).outcome e).effects ++
        .access (.bounds (located r e.document.text).bytes) ::
          if (located r e.document.text).bytes.reaches
              (e.layout.bounds e.document.text (located r e.document.text).bytes).2 then
            []
          else
            [.warning .boundsOutsideRange] := by
  let bytes := (located r e.document.text).bytes
  let inside := bytes.reaches (e.layout.bounds e.document.text bytes).2
  have hwarned : ((warnIf (!inside) .boundsOutsideRange).outcome e).effects =
      if inside then [] else [.warning .boundsOutsideRange] := by
    cases inside <;> rfl
  have hcut (o : Option Text) (f : Text → Rect K × TextRange) :
      ((expect o >>= fun s => pure (f s)).outcome e).effects = [] := by
    cases o <;> rfl
  calc
    ((boundingRect r).outcome e).effects
        = ((locate r).outcome e).effects ++ ([.access (.bounds bytes)] ++
            (((warnIf (!inside) .boundsOutsideRange).outcome e).effects ++ [])) := by
          refine (performs_locate hr e).effects_bind.trans (congrArg _ ?_)
          refine (performs_bounds (covers_located r e.document)).effects_bind.trans
            (congrArg _ ?_)
          refine (performs_warnIf _ _ e).effects_bind.trans (congrArg _ ?_)
          exact hcut _ _
    _ = _ := by
          rw [hwarned, List.append_nil]
          rfl

theorem performs_characterIndex (p : Point K) (e : Editor K) :
    Performs (characterIndex p) e
      ((e.layout.indexAt e.document.text p).map fun i =>
        Text.unitLength (Text.floorTake (min i e.document.length) e.document.text))
      e.document := by
  refine (performs_indexAt p e).bind ?_
  cases e.layout.indexAt e.document.text p with
  | none =>
      exact .pure _ e
  | some i =>
      let t := e.document.text
      have hcovers : e.document.Covers ⟨0, Text.floorOffset (min i e.document.length) t⟩ :=
        ⟨Nat.zero_le _, Text.isBoundary_append [] t, Text.isBoundary_floorOffset _ t⟩
      refine (performs_length e).bind ?_
      refine (performs_floor (Nat.min_le_right _ _)).bind ?_
      exact (performs_slice hcovers (Text.slice?_floorOffset _ t)).bind (.pure _ e)

end InputMethod
end WindowRelay

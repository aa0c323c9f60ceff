import WindowRelay.Proofs.Text.Dialogue

/-!
# Locating — what a range of units stands for

The conversions of `WindowRelay.InputMethod` as functions of a text alone, and the proof that the
operations compute them by legal requests, whatever range is asked for.  A range that is out of
the text or splits a pair is no exception: its ends are where the walks over the text stop.

* `bytesWithin` — what `within` answers;
* `convert` — the part of `locate` that looks up a range in a text that was read, and `converted`,
  what it answers;
* `located` — what `locate` answers.
-/

namespace WindowRelay

namespace Document

variable {d : Document} {r : ByteRange} {before inside after : Text}

theorem covers_of_spans (h : Text.Spans d.text r before inside after) : d.Covers r :=
  ⟨h.le, h.isBoundary_start, h.isBoundary_stop⟩

theorem Covers.exists_spans (h : d.Covers r) :
    ∃ before inside after, Text.Spans d.text r before inside after := by
  rcases h with ⟨hle, hstart, hstop⟩
  exact Text.Spans.exists_of_boundaries hle hstart hstop

end Document

namespace InputMethod

open Editing

variable {K : Type} {e : Editor K}

/-! ## Inside a text of its own -/

def bytesWithin (r : TextRange) (t : Text) : ByteRange :=
  let before := Text.unitTake r.start t
  let inside := Text.unitTake r.len (Text.unitDrop r.start t)
  ⟨Text.byteLength before, Text.byteLength (before ++ inside)⟩

theorem spans_bytesWithin (r : TextRange) (t : Text) :
    Text.Spans t (bytesWithin r t) (Text.unitTake r.start t)
      (Text.unitTake r.len (Text.unitDrop r.start t))
      (Text.unitDrop r.len (Text.unitDrop r.start t)) := by
  refine ⟨?_, rfl, rfl⟩
  rw [List.append_assoc, Text.unitTake_append_unitDrop, Text.unitTake_append_unitDrop]

theorem performs_within (r : TextRange) (t : Text) (e : Editor K) :
    Performs (within r t) e (bytesWithin r t) e.document := by
  have hrest := performs_expect (Text.drop?_findUnit r.start t) e
  have hvalue : bytesWithin r t =
      ⟨(Text.findUnit r.start t).offset, (Text.findUnit r.start t).offset +
        (Text.findUnit r.len (Text.unitDrop r.start t)).offset⟩ := by
    rw [Text.findUnit_eq, Text.findUnit_eq, bytesWithin, Text.byteLength_append]
  rw [hvalue]
  exact hrest.bind (.pure _ e)

/-! ## Inside a text that was read -/

/-- Look up both ends of a range, the second one from where the first one is found. -/
def convert (r : TextRange) (text : Text) : Editing K (ByteRange × TextRange) := do
  let head := Text.findUnit r.start text
  let start ← subtract r.start head.extra
  let rest ← expect (Text.drop? head.offset text)
  let wanted ← subtract r.stop start
  let tail := Text.findUnit wanted rest
  let stop ← subtract r.stop tail.extra
  pure (⟨head.offset, head.offset + tail.offset⟩, TextRange.between start stop)

def converted (r : TextRange) (t : Text) : ByteRange × TextRange :=
  let before := Text.unitTake r.start t
  let inside := Text.unitTake (r.stop - Text.unitLength before) (Text.unitDrop r.start t)
  (⟨Text.byteLength before, Text.byteLength (before ++ inside)⟩,
    ⟨Text.unitLength before, Text.unitLength inside⟩)

theorem start_le_stop {r : TextRange} (h : r.start ≤ TextRange.limit) : r.start ≤ r.stop := by
  rw [TextRange.stop]
  omega

theorem performs_convert {r : TextRange} (hr : r.start ≤ TextRange.limit) (t : Text)
    (e : Editor K) : Performs (convert r t) e (converted r t) e.document := by
  let before := Text.unitTake r.start t
  let rest := Text.unitDrop r.start t
  let wanted := r.stop - Text.unitLength before
  let inside := Text.unitTake wanted rest
  -- The four sums below are the offsets that the operation computes by subtraction, so none of them
  -- is negative.
  have hstop : r.start ≤ r.stop := start_le_stop hr
  have hhead : (Text.findUnit r.start t).extra + Text.unitLength before = r.start :=
    Text.extra_add_unitLength r.start t
  have hwanted : Text.unitLength before + wanted = r.stop := by
    omega
  have htail : (Text.findUnit wanted rest).extra + Text.unitLength inside = wanted :=
    Text.extra_add_unitLength wanted rest
  have hend : (Text.findUnit wanted rest).extra +
      (Text.unitLength before + Text.unitLength inside) = r.stop := by
    omega
  have hvalue : converted r t =
      (⟨(Text.findUnit r.start t).offset,
        (Text.findUnit r.start t).offset + (Text.findUnit wanted rest).offset⟩,
        TextRange.between (Text.unitLength before)
          (Text.unitLength before + Text.unitLength inside)) := by
    simp [converted, TextRange.between, Text.findUnit_eq, before, rest, wanted, inside]
  rw [hvalue]
  refine (performs_subtract hhead e).bind ?_
  refine (performs_expect (Text.drop?_findUnit r.start t) e).bind ?_
  refine (performs_subtract hwanted e).bind ?_
  refine (performs_subtract hend e).bind ?_
  exact .pure _ e

/-! ## Inside a document -/

/-- The beginning of a text that is looked at to find a range. -/
def opening (r : TextRange) (t : Text) : Text :=
  Text.floorTake (min (3 * r.stop) (Text.byteLength t)) t

def located (r : TextRange) (t : Text) : Located :=
  let before := Text.unitTake r.start (opening r t)
  let inside := Text.unitTake (r.stop - Text.unitLength before)
    (Text.unitDrop r.start (opening r t))
  ⟨⟨Text.byteLength before, Text.byteLength (before ++ inside)⟩,
    ⟨Text.unitLength before, Text.unitLength inside⟩, opening r t⟩

theorem located_spans (r : TextRange) (t : Text) :
    ∃ before inside after rest,
      Text.Spans (opening r t) (located r t).bytes before inside after ∧
        Text.Spans t (located r t).bytes before inside (after ++ rest) ∧
        (located r t).actual = ⟨Text.unitLength before, Text.unitLength inside⟩ := by
  rcases Text.floorTake_prefix (min (3 * r.stop) (Text.byteLength t)) t with ⟨rest, hrest⟩
  let before := Text.unitTake r.start (opening r t)
  let wanted := r.stop - Text.unitLength before
  let inside := Text.unitTake wanted (Text.unitDrop r.start (opening r t))
  let after := Text.unitDrop wanted (Text.unitDrop r.start (opening r t))
  have hcat : opening r t = before ++ inside ++ after := by
    rw [List.append_assoc, Text.unitTake_append_unitDrop, Text.unitTake_append_unitDrop]
  -- The walks never look past the opening, so the rest of the text is added behind the last piece.
  refine ⟨before, inside, after, rest, ⟨hcat, rfl, rfl⟩, ⟨?_, rfl, rfl⟩, rfl⟩
  calc
    t = opening r t ++ rest := hrest.symm
    _ = before ++ inside ++ (after ++ rest) := by
          rw [hcat, List.append_assoc _ after rest]

theorem covers_located (r : TextRange) (d : Document) : d.Covers (located r d.text).bytes := by
  rcases located_spans r d.text with ⟨before, inside, after, rest, _, h, _⟩
  exact Document.covers_of_spans h

/-- What is read of the document is converted. -/
theorem locate_eq (r : TextRange) :
    (locate r : Editing K Located) = (do
      let size ← length
      let aperture ← floor (min (3 * r.stop) size)
      let text ← slice ⟨0, aperture⟩
      let (bytes, actual) ← convert r text
      pure ⟨bytes, actual, text⟩) := by
  simp [locate, convert]

theorem performs_locate {r : TextRange} (hr : r.start ≤ TextRange.limit) (e : Editor K) :
    Performs (locate r) e (located r e.document.text) e.document := by
  let t := e.document.text
  have hopening : e.document.Covers ⟨0, Text.floorOffset (min (3 * r.stop) e.document.length) t⟩ :=
    ⟨Nat.zero_le _, Text.isBoundary_append [] t, Text.isBoundary_floorOffset _ t⟩
  rw [locate_eq]
  refine (performs_length e).bind ?_
  refine (performs_floor (Nat.min_le_right _ _)).bind ?_
  refine (performs_slice hopening (Text.slice?_floorOffset _ t)).bind ?_
  exact (performs_convert hr (opening r t) e).bind (.pure _ e)

/-! ## From bytes back to units -/

theorem performs_toUnits {r : ByteRange} {before inside after : Text}
    (h : Text.Spans e.document.text r before inside after) :
    Performs (toUnits r) e ⟨Text.unitLength before, Text.unitLength inside⟩ e.document := by
  -- The text is read up to the end of the range, and cut at its start.
  have hhead : Text.Spans e.document.text ⟨0, r.stop⟩ [] (before ++ inside) after :=
    ⟨h.text, rfl, h.stop⟩
  have hinner : Text.Spans (before ++ inside) ⟨r.start, r.stop⟩ before inside [] :=
    ⟨by simp, h.start, h.stop⟩
  have htake : Text.take? r.start (before ++ inside) = some before := hinner.take?_start
  have hdrop : Text.drop? r.start (before ++ inside) = some inside :=
    Text.drop?_eq_some_iff.2 ⟨before, rfl, h.start.symm⟩
  refine (performs_slice (Document.covers_of_spans hhead) hhead.slice?).bind ?_
  refine (performs_expect htake e).bind ?_
  refine (performs_expect hdrop e).bind ?_
  exact .pure _ e

end InputMethod
end WindowRelay

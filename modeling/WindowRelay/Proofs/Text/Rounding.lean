import WindowRelay.Proofs.Text.Legality
import WindowRelay.Proofs.Text.Surrogates

/-!
# Rounding — which part of a text a range of units stands for

A range may reach past the text, or split a pair at either end.  It stands for what lies between the
two offsets that its ends round to, each end by itself:

* `converted_eq` — both ends are found by walks from the beginning of the text;
* `converted_opening` — the walks stay in the opening that `locate` reads;
* `converted_again` — the range that was used stands for the same part;
* `text_in_range_is_exact` — what `textInRange` answers, for every text and every range.
-/

namespace WindowRelay

/-- What lies between these bytes lies between the offsets that the two ends of the range round to. -/
def TextRange.Denotes (r : TextRange) (t : Text) (bytes : ByteRange) : Prop :=
  ∃ before inside after, Text.Spans t bytes before inside after ∧
    Text.RoundsTo t r.start (Text.unitLength before) ∧
      Text.RoundsTo t r.stop (Text.unitLength (before ++ inside))

namespace InputMethod

open Editing

variable {K : Type} {r : TextRange}

/-- The bytes that are looked up for a range are those it denotes. -/
structure Locates (e : Editor K) (r : TextRange) (bytes : ByteRange) : Prop where
  found : ∃ l : Located, ((locate r).outcome e).value = .ok l ∧ l.bytes = bytes
  denotes : r.Denotes e.document.text bytes

/-! ## Both ends -/

/-- The second walk starts where the first one stopped, and ends as if it came from the start. -/
theorem converted_eq (hr : r.start ≤ TextRange.limit) (t : Text) :
    converted r t =
      (⟨Text.byteLength (Text.unitTake r.start t), Text.byteLength (Text.unitTake r.stop t)⟩,
        TextRange.between (Text.unitLength (Text.unitTake r.start t))
          (Text.unitLength (Text.unitTake r.stop t))) := by
  have hreach : Text.unitLength (Text.unitTake r.start t) ≤ r.stop :=
    Nat.le_trans (Text.unitLength_unitTake_le r.start t) (start_le_stop hr)
  have hwhole := Text.unitTake_append_unitTake hreach
  have hlength := congrArg Text.unitLength hwhole
  simp only [Text.unitLength_append] at hlength
  simp only [converted, hwhole, TextRange.between, ← hlength, Nat.add_sub_cancel_left]

theorem unitTake_opening {p : Nat} (h : p ≤ r.stop) (t : Text) :
    Text.unitTake p (opening r t) = Text.unitTake p t := by
  apply Text.unitTake_floorTake
  apply Nat.le_min.2
  constructor
  · calc
      Text.byteLength (Text.unitTake p t) ≤ 3 * Text.unitLength (Text.unitTake p t) :=
            Text.byteLength_le _
      _ ≤ 3 * p := Nat.mul_le_mul_left 3 (Text.unitLength_unitTake_le p t)
      _ ≤ 3 * r.stop := Nat.mul_le_mul_left 3 h
  · calc
      Text.byteLength (Text.unitTake p t)
          ≤ Text.byteLength (Text.unitTake p t ++ Text.unitDrop p t) := by simp
      _ = Text.byteLength t := by rw [Text.unitTake_append_unitDrop]

/-- Nothing of what a range stands for lies behind the opening. -/
theorem converted_opening (hr : r.start ≤ TextRange.limit) (t : Text) :
    converted r (opening r t) = converted r t := by
  have hstart := unitTake_opening (start_le_stop hr) t
  have hstop := unitTake_opening (Nat.le_refl r.stop) t
  simp only [converted_eq hr, hstart, hstop]

theorem stop_le_limit (r : TextRange) : r.stop ≤ TextRange.limit :=
  Nat.min_le_right _ _

theorem start_converted (r : TextRange) (t : Text) :
    (converted r t).2.start = Text.unitLength (Text.unitTake r.start t) :=
  rfl

theorem end_converted (hr : r.start ≤ TextRange.limit) (t : Text) :
    (converted r t).2.start + (converted r t).2.len =
      Text.unitLength (Text.unitTake r.stop t) := by
  have horder := Text.unitLength_unitTake_mono (t := t) (start_le_stop hr)
  simp only [converted_eq hr, TextRange.between]
  exact Nat.add_sub_cancel' horder

/-- The range that was used ends where one of its ends rounds to, so its end is an offset too. -/
theorem end_converted_le (hr : r.start ≤ TextRange.limit) (t : Text) :
    (converted r t).2.start + (converted r t).2.len ≤ TextRange.limit := by
  calc
    (converted r t).2.start + (converted r t).2.len
        = Text.unitLength (Text.unitTake r.stop t) := end_converted hr t
    _ ≤ r.stop := Text.unitLength_unitTake_le r.stop t
    _ ≤ TextRange.limit := stop_le_limit r

/-! ## The part between them -/

theorem located_eq (hr : r.start ≤ TextRange.limit) (t : Text) :
    located r t = ⟨(converted r t).1, (converted r t).2, opening r t⟩ := by
  rw [← converted_opening hr]
  rfl

theorem located_actual (hr : r.start ≤ TextRange.limit) (t : Text) :
    (located r t).actual = (converted r t).2 := by
  rw [located_eq hr]

/-- The part is cut out of the opening as out of the whole text. -/
theorem converted_spans (hr : r.start ≤ TextRange.limit) (t : Text) :
    ∃ before inside after rest,
      Text.Spans (opening r t) (converted r t).1 before inside after ∧
        Text.Spans t (converted r t).1 before inside (after ++ rest) ∧
        (converted r t).2 = ⟨Text.unitLength before, Text.unitLength inside⟩ := by
  simpa only [located_eq hr] using located_spans r t

/-- The units of a part of the text stand for that part. -/
theorem converted_units {t before inside after : Text} {bytes : ByteRange}
    (h : Text.Spans t bytes before inside after)
    (hlimit : Text.unitLength (before ++ inside) ≤ TextRange.limit) :
    converted ⟨Text.unitLength before, Text.unitLength inside⟩ t =
      (bytes, ⟨Text.unitLength before, Text.unitLength inside⟩) := by
  let units : TextRange := ⟨Text.unitLength before, Text.unitLength inside⟩
  have hstart : units.start ≤ TextRange.limit :=
    Nat.le_trans (Text.unitLength_le_append before inside) hlimit
  have hstop : units.stop = Text.unitLength (before ++ inside) := by
    rw [Text.unitLength_append] at hlimit ⊢
    exact Nat.min_eq_left hlimit
  -- Both walks arrive, one at the start of the part and one at its end.
  have hfirst : Text.unitTake units.start t = before := by
    rw [h.text, List.append_assoc]
    exact Text.unitTake_unitLength before (inside ++ after)
  have hlast : Text.unitTake units.stop t = before ++ inside := by
    rw [hstop, h.text]
    exact Text.unitTake_unitLength (before ++ inside) after
  have hbytes : bytes = ⟨Text.byteLength before, Text.byteLength (before ++ inside)⟩ := by
    rw [← h.start, ← h.stop]
  rw [converted_eq hstart, hfirst, hlast, hbytes, TextRange.between, Text.unitLength_append,
    Nat.add_sub_cancel_left]

/-- The ends of a range that was used are where they round to. -/
theorem converted_again (hr : r.start ≤ TextRange.limit) (t : Text) :
    converted (converted r t).2 t = converted r t := by
  rcases converted_spans hr t with ⟨before, inside, after, rest, -, hspans, hunits⟩
  have hlimit : Text.unitLength (before ++ inside) ≤ TextRange.limit := by
    simpa [hunits] using end_converted_le hr t
  have hback := converted_units hspans hlimit
  rw [← hunits] at hback
  exact hback

theorem locates (hr : r.start ≤ TextRange.limit) (e : Editor K) :
    Locates e r (located r e.document.text).bytes := by
  let t := e.document.text
  rcases converted_spans hr t with ⟨before, inside, after, rest, -, hspans, hunits⟩
  have hstart : Text.unitLength before = Text.unitLength (Text.unitTake r.start t) := by
    rw [← start_converted, hunits]
  have hstop : Text.unitLength (before ++ inside) = Text.unitLength (Text.unitTake r.stop t) := by
    rw [← end_converted hr, hunits, Text.unitLength_append]
  refine ⟨⟨_, (performs_locate hr e).value, rfl⟩, before, inside, after ++ rest, ?_, ?_, ?_⟩
  · simpa only [located_eq hr] using hspans
  · rw [hstart]
    exact Text.roundsTo_unitTake r.start t
  · rw [hstop]
    exact Text.roundsTo_unitTake r.stop t

theorem performs_textInRange_converted (hr : r.start ≤ TextRange.limit) {e : Editor K} {s : Text}
    (hs : Text.slice? (converted r e.document.text).1.start (converted r e.document.text).1.stop
      e.document.text = some s) :
    Performs (textInRange r) e (s, (converted r e.document.text).2) e.document := by
  rcases converted_spans hr e.document.text with ⟨before, inside, after, rest, hopening, hspans, -⟩
  obtain rfl : inside = s := Option.some.inj (hspans.slice?.symm.trans hs)
  simpa only [located_eq hr] using
    performs_textInRange hr (e := e) (by simpa only [located_eq hr] using hopening)

/-! ## Exactness -/

/-- What is answered for a range is the part of the text between the offsets that its two ends round
to, and these are named in the answer.  It is found in the opening of the text as it would be in all
of it, and the range of the answer has the same answer. -/
theorem text_in_range_is_exact (e : Editor K) (r : TextRange) (hr : r.Fits) :
    let t := e.document.text
    ∃ (s : Text) (actual : TextRange),
      (step (.textInRange r)).run e =
          ⟨.ok (.text s actual), e, ((step (.textInRange r)).run e).effects⟩ ∧
        Text.RoundsTo t r.start actual.start ∧
        Text.RoundsTo t (min (r.start + r.len) TextRange.limit) (actual.start + actual.len) ∧
        (∃ before after, t = before ++ s ++ after ∧
          (Text.units before).length = actual.start ∧ (Text.units s).length = actual.len) ∧
        (∃ head bytes,
          Text.slice? 0 (Text.floorOffset (min (3 * r.stop) e.document.length) t) t = some head ∧
            ((convert r head).outcome e).value = .ok (bytes, actual) ∧
            ((convert r t).outcome e).value = .ok (bytes, actual) ∧
            Text.slice? bytes.start bytes.stop head = some s ∧
            Text.slice? bytes.start bytes.stop t = some s) ∧
        ((step (.textInRange actual)).run e).value = .ok (.text s actual) := by
  intro t
  let actual := (converted r t).2
  have hactual : actual.start ≤ TextRange.limit :=
    Nat.le_trans (Text.unitLength_unitTake_le r.start t) hr.1
  rcases converted_spans hr.1 t with ⟨before, s, after, rest, hopening, hspans, hunits⟩
  have hconvert := performs_convert hr.1 (opening r t) e
  rw [converted_opening hr.1] at hconvert
  have hanswer : Performs (answer (.textInRange r)) e (.text s actual) e.document :=
    (performs_textInRange_converted hr.1 hspans.slice?).bind (.pure _ e)
  refine ⟨s, actual, hanswer.outcome_eq, ?_, ?_, ?_, ?_, ?_⟩
  · exact Text.roundsTo_unitTake r.start t
  · rw [end_converted hr.1]
    exact Text.roundsTo_unitTake r.stop t
  · refine ⟨before, after ++ rest, hspans.text, ?_, ?_⟩
    · rw [Text.length_units]
      exact (congrArg TextRange.start hunits).symm
    · rw [Text.length_units]
      exact (congrArg TextRange.len hunits).symm
  · exact ⟨opening r t, (converted r t).1, Text.slice?_floorOffset _ t, hconvert.value,
      (performs_convert hr.1 t e).value, hopening.slice?, hspans.slice?⟩
  · have hagain : Performs (textInRange actual) e (s, actual) e.document := by
      have h := performs_textInRange_converted (e := e) (s := s) hactual
      rw [converted_again hr.1] at h
      exact h hspans.slice?
    have hreply : Performs (answer (.textInRange actual)) e (.text s actual) e.document :=
      hagain.bind (.pure _ e)
    exact hreply.value

/-- A range that starts inside a pair, and whose end is beyond all offsets. -/
theorem text_in_range_is_exact_from_inside_a_pair :
    let t : Text := ['a', '😀', 'b']
    let e : Editor Float := ⟨Document.ofText t, GridLayout.standard.toLayout⟩
    let r : TextRange := ⟨2, TextRange.limit⟩
    r.Fits ∧ Text.SplitsPair t 2 ∧
      ((step (.textInRange r)).run e).value = .ok (.text ['😀', 'b'] ⟨1, 3⟩) ∧
      ((step (.textInRange ⟨1, 3⟩)).run e).value = .ok (.text ['😀', 'b'] ⟨1, 3⟩) := by
  intro t e r
  have hfits : r.Fits := by decide
  rcases text_in_range_is_exact e r hfits with
    ⟨s, ⟨start, len⟩, hrun, hstart, hend, ⟨before, after, ht, hbefore, hs⟩, -, hagain⟩
  have hone : start = 1 := hstart.unique (Text.roundsTo_unitTake 2 t)
  have hfour : start + len = 4 := by
    have hreach : min (r.start + r.len) TextRange.limit = TextRange.limit :=
      Nat.min_eq_right (Nat.le_add_left _ _)
    have hall : Text.unitTake TextRange.limit t = t := Text.unitTake_eq_self (by decide)
    have hlast := Text.roundsTo_unitTake TextRange.limit t
    rw [hall] at hlast
    rw [hreach] at hend
    exact hend.unique hlast
  obtain rfl : start = 1 := hone
  obtain rfl : len = 3 := by omega
  -- The lengths of the pieces tell them apart.
  rw [Text.length_units] at hbefore hs
  have hpart : ['a'] = before := by
    have h := Text.unitTake_unitLength before (s ++ after)
    rw [← List.append_assoc, ← ht, hbefore] at h
    exact h
  subst hpart
  have hwhole : ['a', '😀', 'b'] = ['a'] ++ s := by
    have h := Text.unitTake_unitLength (['a'] ++ s) after
    rw [← ht, Text.unitLength_append, hs] at h
    exact h
  obtain rfl : ['😀', 'b'] = s := by
    simpa using hwhole
  exact ⟨hfits, by decide, congrArg Outcome.value hrun, hagain⟩

end InputMethod
end WindowRelay

import Mathlib.Order.Bounds.Basic
import WindowRelay.Proofs.Text.Surrogates

/-!
# Scanning — from a position in units to a boundary in bytes

Before every boundary of a text there is a number of units.  This offset map takes bytes to units,
and `findUnit` goes the other way, from any position and not only from those that the map hits.  It
is the floor of the map, and all that is said of it here comes from one law: past a beginning of the
text, a scan is the scan of the rest.

* `unitOffset?` — the offset map, and `boundariesWithin p t`, the boundaries it sends up to `p`;
* `findUnit_append` — scanning in two parts;
* `isGreatest_findUnit`, `findUnit_mono` — where a scan stops;
* `extra_eq_zero_iff`, `SplitsPair.extra_findUnit`, `findUnit_of_unitLength_le` — what it leaves
  over;
* `findUnit_floors_the_offset_map` — all of it for every text and every position.
-/

namespace WindowRelay
namespace Text

variable {t before : Text} {b n p q : Nat}

/-! ## The offset map -/

/-- The units before a byte offset, which has to be a boundary of the text. -/
def unitOffset? (b : Nat) (t : Text) : Option Nat :=
  (take? b t).map unitLength

/-- The boundaries with no more than `p` units before them. -/
def boundariesWithin (p : Nat) (t : Text) : Set Nat :=
  {b | ∃ n ≤ p, unitOffset? b t = some n}

theorem unitOffset?_eq_some_iff :
    unitOffset? b t = some n ↔
      ∃ before after, t = before ++ after ∧ byteLength before = b ∧ unitLength before = n := by
  simp only [unitOffset?, Option.map_eq_some_iff, take?_eq_some_iff]
  constructor
  · rintro ⟨before, ⟨after, ht, hb⟩, hn⟩
    exact ⟨before, after, ht, hb, hn⟩
  · rintro ⟨before, after, ht, hb, hn⟩
    exact ⟨before, ⟨after, ht, hb⟩, hn⟩

theorem boundariesWithin_mono (h : p ≤ q) (t : Text) :
    boundariesWithin p t ⊆ boundariesWithin q t := by
  rintro b ⟨n, hn, hb⟩
  exact ⟨n, Nat.le_trans hn h, hb⟩

/-! ## Scanning in two parts -/

/-- A scan that does not stop in `before` goes on behind it with what is left of the position. -/
theorem findUnit_append (h : unitLength before ≤ p) (after : Text) :
    findUnit p (before ++ after) =
      ⟨byteLength before + (findUnit (p - unitLength before) after).offset,
        (findUnit (p - unitLength before) after).extra⟩ := by
  simp only [findUnit_eq, unitTake_append h, byteLength_append, unitLength_append, Nat.sub_sub]

/-! ## Where a scan stops -/

theorem unitOffset?_findUnit (p : Nat) (t : Text) :
    unitOffset? (findUnit p t).offset t = some (unitLength (unitTake p t)) := by
  refine unitOffset?_eq_some_iff.2 ⟨unitTake p t, unitDrop p t, ?_, ?_, rfl⟩
  · exact (unitTake_append_unitDrop p t).symm
  · rw [findUnit_eq]

theorem isGreatest_findUnit (p : Nat) (t : Text) :
    IsGreatest (boundariesWithin p t) (findUnit p t).offset := by
  constructor
  · exact ⟨_, unitLength_unitTake_le p t, unitOffset?_findUnit p t⟩
  · -- What lies before another such boundary is passed first, so the scan stops no earlier.
    rintro b ⟨n, hn, hb⟩
    rcases unitOffset?_eq_some_iff.1 hb with ⟨before, after, rfl, rfl, rfl⟩
    rw [findUnit_append hn]
    exact Nat.le_add_right _ _

theorem findUnit_mono (t : Text) : Monotone fun p => (findUnit p t).offset := by
  intro p q h
  exact (isGreatest_findUnit p t).mono (isGreatest_findUnit q t) (boundariesWithin_mono h t)

/-! ## What a scan leaves over -/

/-- Nothing is left over at the positions that the offset map hits, and only there. -/
theorem extra_eq_zero_iff : (findUnit p t).extra = 0 ↔ ∃ b, unitOffset? b t = some p := by
  constructor
  · -- The scan has used up the position, so the boundary it stops at is the one that is meant.
    intro hextra
    have hsum := extra_add_unitLength p t
    have hall : unitLength (unitTake p t) = p := by
      omega
    exact ⟨(findUnit p t).offset, by rw [unitOffset?_findUnit, hall]⟩
  · rintro ⟨b, hb⟩
    rcases unitOffset?_eq_some_iff.1 hb with ⟨before, after, rfl, rfl, rfl⟩
    rw [findUnit_eq, unitTake_unitLength, Nat.sub_self]

theorem SplitsPair.extra_findUnit (h : SplitsPair t p) : (findUnit p t).extra = 1 := by
  have hsum := extra_add_unitLength p t
  have hstop := h.unitLength_unitTake
  omega

theorem findUnit_of_unitLength_le (h : unitLength t ≤ p) :
    findUnit p t = ⟨byteLength t, p - unitLength t⟩ := by
  rw [findUnit_eq, unitTake_eq_self h]

/-! ## Scanning as the floor of the offset map -/

/-- A scan stops at the last boundary that the offset map sends to its position or before it, and
leaves over what is missing: nothing if the map hits the position, one unit in a pair, the overshoot
past the end.  A scan to a later position stops no earlier, and a scan can be begun again at every
boundary on its way. -/
theorem findUnit_floors_the_offset_map (t : Text) :
    (∀ p, let found := findUnit p t
        IsGreatest (boundariesWithin p t) found.offset ∧
          (∃ n, unitOffset? found.offset t = some n ∧ n + found.extra = p) ∧
          (found.extra = 0 ↔ ∃ b, unitOffset? b t = some p) ∧
          (SplitsPair t p → found.extra = 1) ∧
          (unitLength t < p → found.extra = p - unitLength t) ∧
          ∀ b before rest, splitAt? b t = some (before, rest) → unitLength before ≤ p →
            found = ⟨b + (findUnit (p - unitLength before) rest).offset,
              (findUnit (p - unitLength before) rest).extra⟩) ∧
      Monotone fun p => (findUnit p t).offset := by
  refine ⟨?_, findUnit_mono t⟩
  intro p found
  refine ⟨isGreatest_findUnit p t, ?_, extra_eq_zero_iff, SplitsPair.extra_findUnit, ?_, ?_⟩
  · refine ⟨_, unitOffset?_findUnit p t, ?_⟩
    rw [Nat.add_comm]
    exact extra_add_unitLength p t
  · intro hpast
    exact congrArg UnitPosition.extra (findUnit_of_unitLength_le (Nat.le_of_lt hpast))
  · intro b before rest hsplit hle
    rcases splitAt?_eq_some_iff.1 hsplit with ⟨rfl, rfl⟩
    exact findUnit_append hle rest

example : (List.range 7).map (findUnit · ['a', '😀', 'б']) =
    [⟨0, 0⟩, ⟨1, 0⟩, ⟨1, 1⟩, ⟨5, 0⟩, ⟨7, 0⟩, ⟨7, 1⟩, ⟨7, 2⟩] := by
  decide

end Text
end WindowRelay

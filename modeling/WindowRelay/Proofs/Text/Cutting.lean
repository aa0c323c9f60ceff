import Mathlib.Data.List.Basic
import WindowRelay.Text.Range
import WindowRelay.Text.Units

/-!
# Cutting — byte offsets as splits of a text

Every cut of a text at a byte offset is a way to write the text as a concatenation, and every walk
over it stops between two characters.  With the statements below a proof about offsets speaks of
the pieces of a text, and never opens a recursive definition of `WindowRelay.Text`:

* `splitAt?_eq_some_iff`, `take?_eq_some_iff`, `drop?_eq_some_iff` — cutting in two;
* `Spans t r before inside after` — the range `r` cuts `t` in these three pieces, with what slicing
  and replacing then give;
* `floorTake` — the piece of a text that `floorOffset` measures, up to the last boundary there is;
* `unitTake`, `unitDrop` — the two pieces between which `findUnit` stops.
-/

namespace WindowRelay
namespace Text

variable {t before after : Text} {n start stop : Nat}

theorem byteSize_pos (c : Char) : 0 < byteSize c :=
  Char.utf8Size_pos c

@[simp]
theorem byteLength_nil : byteLength [] = 0 :=
  rfl

@[simp]
theorem byteLength_append (s t : Text) : byteLength (s ++ t) = byteLength s + byteLength t := by
  induction s with
  | nil =>
      simp
  | cons c s ih =>
      simp [byteLength, ih, Nat.add_assoc]

theorem byteLength_eq_zero_iff {t : Text} : byteLength t = 0 ↔ t = [] := by
  cases t with
  | nil =>
      simp
  | cons c t =>
      -- A character takes up at least one byte.
      have hc : 0 < byteSize c := byteSize_pos c
      simp only [byteLength, reduceCtorEq, iff_false]
      omega

/-! ## Cutting operations -/

theorem splitAt?_byteLength (before after : Text) :
    splitAt? (byteLength before) (before ++ after) = some (before, after) := by
  induction before with
  | nil =>
      simp [splitAt?]
  | cons c before ih =>
      have hc : 0 < byteSize c := byteSize_pos c
      -- The offset is a successor, so the walk takes `c` and goes on with what is left of it.
      obtain ⟨m, hm⟩ : ∃ m, byteLength (c :: before) = m + 1 :=
        ⟨byteLength (c :: before) - 1, by simp only [byteLength]; omega⟩
      have hfits : byteSize c ≤ m + 1 := by
        rw [← hm, byteLength]
        omega
      have hrest : m + 1 - byteSize c = byteLength before := by
        rw [← hm, byteLength]
        omega
      rw [hm, List.cons_append, splitAt?, if_pos hfits, hrest, ih]
      rfl

theorem splitAt?_eq_some_iff :
    splitAt? n t = some (before, after) ↔ t = before ++ after ∧ byteLength before = n := by
  constructor
  · intro h
    -- The walk has arrived, finds the text too short, passes a character, or finds the offset
    -- inside of one.
    fun_induction splitAt? n t generalizing before after with
    | case1 t =>
        cases h
        exact ⟨rfl, rfl⟩
    | case2 n =>
        cases h
    | case3 n c t hfits ih =>
        rcases Option.map_eq_some_iff.1 h with ⟨⟨head, rest⟩, hsplit, heq⟩
        cases heq
        rcases ih hsplit with ⟨hcat, hlen⟩
        refine ⟨by rw [hcat, List.cons_append], ?_⟩
        rw [byteLength, hlen]
        omega
    | case4 n c t hfits =>
        cases h
  · rintro ⟨rfl, rfl⟩
    exact splitAt?_byteLength before after

theorem isBoundary_iff :
    IsBoundary t n ↔ ∃ before after, t = before ++ after ∧ byteLength before = n := by
  unfold IsBoundary
  rw [Option.isSome_iff_exists]
  constructor
  · rintro ⟨⟨before, after⟩, h⟩
    exact ⟨before, after, splitAt?_eq_some_iff.1 h⟩
  · rintro ⟨before, after, h⟩
    exact ⟨(before, after), splitAt?_eq_some_iff.2 h⟩

theorem isBoundary_append (before after : Text) :
    IsBoundary (before ++ after) (byteLength before) :=
  isBoundary_iff.2 ⟨before, after, rfl, rfl⟩

theorem IsBoundary.le_byteLength (h : IsBoundary t n) : n ≤ byteLength t := by
  rcases isBoundary_iff.1 h with ⟨before, after, rfl, rfl⟩
  simp

theorem take?_eq_some_iff :
    take? n t = some before ↔ ∃ after, t = before ++ after ∧ byteLength before = n := by
  simp [take?, splitAt?_eq_some_iff]

theorem drop?_eq_some_iff :
    drop? n t = some after ↔ ∃ before, t = before ++ after ∧ byteLength before = n := by
  simp [drop?, splitAt?_eq_some_iff]

/-! ## Cutting in three -/

structure Spans (t : Text) (r : ByteRange) (before inside after : Text) : Prop where
  text : t = before ++ inside ++ after
  start : r.start = byteLength before
  stop : r.stop = byteLength (before ++ inside)

namespace Spans

variable {t before inside after : Text} {r : ByteRange}

/-- Two boundaries in order cut a text in three. -/
theorem exists_of_boundaries (hle : r.start ≤ r.stop) (hstart : IsBoundary t r.start)
    (hstop : IsBoundary t r.stop) : ∃ before inside after, Spans t r before inside after := by
  rcases isBoundary_iff.1 hstart with ⟨before, rest, rfl, hbefore⟩
  rcases isBoundary_iff.1 hstop with ⟨whole, after, hcat, hwhole⟩
  rcases List.append_eq_append_iff.1 hcat with ⟨inside, hw, _⟩ | ⟨inside, hb, _⟩
  · subst hw
    exact ⟨before, inside, after, hcat, hbefore.symm, hwhole.symm⟩
  · -- The second cut is not after the first, so what lies between them is empty.
    have hlen : byteLength before = byteLength whole + byteLength inside := by
      rw [hb, byteLength_append]
    have hempty : inside = [] := by
      rw [← byteLength_eq_zero_iff]
      omega
    subst hempty
    have hsame : before = whole := by
      simpa using hb
    refine ⟨before, [], rest, by simp, hbefore.symm, ?_⟩
    rw [List.append_nil, hsame, hwhole]

theorem le (h : Spans t r before inside after) : r.start ≤ r.stop := by
  rw [h.start, h.stop, byteLength_append]
  exact Nat.le_add_right _ _

theorem isBoundary_start (h : Spans t r before inside after) : IsBoundary t r.start := by
  rw [h.text, h.start, List.append_assoc]
  exact isBoundary_append before (inside ++ after)

theorem isBoundary_stop (h : Spans t r before inside after) : IsBoundary t r.stop := by
  rw [h.text, h.stop]
  exact isBoundary_append (before ++ inside) after

theorem length_eq (h : Spans t r before inside after) : r.length = byteLength inside := by
  rw [ByteRange.length, h.start, h.stop, byteLength_append]
  omega

theorem take?_start (h : Spans t r before inside after) : take? r.start t = some before :=
  take?_eq_some_iff.2 ⟨inside ++ after, by rw [h.text, List.append_assoc], h.start.symm⟩

theorem drop?_stop (h : Spans t r before inside after) : drop? r.stop t = some after :=
  drop?_eq_some_iff.2 ⟨before ++ inside, h.text, h.stop.symm⟩

theorem slice? (h : Spans t r before inside after) : slice? r.start r.stop t = some inside := by
  have htake : take? r.stop t = some (before ++ inside) :=
    take?_eq_some_iff.2 ⟨after, h.text, h.stop.symm⟩
  have hdrop : drop? r.start (before ++ inside) = some inside :=
    drop?_eq_some_iff.2 ⟨before, rfl, h.start.symm⟩
  rw [Text.slice?, if_pos h.le, htake, Option.bind_some, hdrop]

theorem replace? (h : Spans t r before inside after) (new : Text) :
    replace? r.start r.stop new t = some (before ++ new ++ after) := by
  rw [Text.replace?, if_pos h.le, h.take?_start, h.drop?_stop]
  rfl

/-- A range that spans a part of the inside of another one. -/
theorem nested {q : ByteRange} {left middle right : Text}
    (h : Spans t r before (left ++ middle ++ right) after)
    (hstart : q.start = r.start + byteLength left)
    (hstop : q.stop = r.start + byteLength (left ++ middle)) :
    Spans t q (before ++ left) middle (right ++ after) := by
  refine ⟨?_, ?_, ?_⟩
  · simp [h.text]
  · rw [hstart, h.start, byteLength_append]
  · rw [hstop, h.start, ← byteLength_append, List.append_assoc]

/-- A range that spans the first part of the inside of another one. -/
theorem front {left right : Text} (h : Spans t r before (left ++ right) after) :
    Spans t ⟨r.start, byteLength (before ++ left)⟩ before left (right ++ after) :=
  ⟨by simp [h.text], h.start, rfl⟩

/-- A range cuts a text in one way only. -/
theorem pieces_eq {before' inside' after' : Text} (h : Spans t r before inside after)
    (h' : Spans t r before' inside' after') : before = before' ∧ after = after' := by
  have hbefore := h.take?_start.symm.trans h'.take?_start
  have hafter := h.drop?_stop.symm.trans h'.drop?_stop
  exact ⟨Option.some.inj hbefore, Option.some.inj hafter⟩

/-- A boundary inside a range cuts what the range spans. -/
theorem exists_split {n : Nat} (h : Spans t r before inside after) (hn : IsBoundary t n)
    (hle : r.start ≤ n) (hge : n ≤ r.stop) :
    ∃ left right, inside = left ++ right ∧ n = byteLength (before ++ left) := by
  rcases isBoundary_iff.1 hn with ⟨head, tail, hcat, hlen⟩
  have hstart := h.start
  have hstop := h.stop
  have heq : before ++ (inside ++ after) = head ++ tail := by
    rw [← hcat, h.text, List.append_assoc]
  -- The cut is after `before`, or it would come before the start of the range.
  rcases List.append_eq_append_iff.1 heq with ⟨left, hhead, hrest⟩ | ⟨extra, hbefore, _⟩
  · rcases List.append_eq_append_iff.1 hrest with ⟨excess, hleft, _⟩ | ⟨right, hinside, _⟩
    · -- The cut reaches past the range, but no further than its end.
      have hexcess : byteLength excess = 0 := by
        simp only [hhead, hleft, byteLength_append] at hlen hstop
        omega
      rw [byteLength_eq_zero_iff] at hexcess
      refine ⟨inside, [], by simp, ?_⟩
      rw [← hlen, hhead, hleft, hexcess, List.append_nil]
    · exact ⟨left, right, hinside, by rw [← hlen, hhead]⟩
  · have hextra : byteLength extra = 0 := by
      simp only [hbefore, byteLength_append] at hstart
      omega
    rw [byteLength_eq_zero_iff] at hextra
    refine ⟨[], inside, rfl, ?_⟩
    rw [List.append_nil, ← hlen, hbefore, hextra, List.append_nil]

end Spans

/-! ## Rounding down to a boundary -/

/-- The longest beginning of a text that takes up at most `n` bytes. -/
def floorTake : Nat → Text → Text
  | _, [] => []
  | n, c :: t => if byteSize c ≤ n then c :: floorTake (n - byteSize c) t else []

theorem floorTake_prefix (n : Nat) (t : Text) : floorTake n t <+: t := by
  induction t generalizing n with
  | nil =>
      exact List.nil_prefix
  | cons c t ih =>
      rw [floorTake]
      split
      · exact (List.prefix_cons_inj c).2 (ih _)
      · exact List.nil_prefix

theorem byteLength_floorTake (n : Nat) (t : Text) :
    byteLength (floorTake n t) = floorOffset n t := by
  induction t generalizing n with
  | nil =>
      rfl
  | cons c t ih =>
      rw [floorTake, floorOffset]
      split
      · rw [byteLength, ih]
      · rfl

theorem slice?_floorOffset (n : Nat) (t : Text) :
    slice? 0 (floorOffset n t) t = some (floorTake n t) := by
  rcases floorTake_prefix n t with ⟨rest, hrest⟩
  have h : Spans t ⟨0, floorOffset n t⟩ [] (floorTake n t) rest :=
    ⟨hrest.symm, rfl, (byteLength_floorTake n t).symm⟩
  exact h.slice?

theorem isBoundary_floorOffset (n : Nat) (t : Text) : IsBoundary t (floorOffset n t) := by
  rcases floorTake_prefix n t with ⟨rest, hrest⟩
  exact isBoundary_iff.2 ⟨floorTake n t, rest, hrest.symm, byteLength_floorTake n t⟩

/-- The last boundary of a text up to a byte offset. -/
structure FloorsTo (t : Text) (n k : Nat) : Prop where
  le : k ≤ n
  boundary : IsBoundary t k
  greatest : ∀ m, m ≤ n → IsBoundary t m → m ≤ k

theorem floorOffset_le (n : Nat) (t : Text) : floorOffset n t ≤ n := by
  induction t generalizing n with
  | nil =>
      exact Nat.zero_le _
  | cons c t ih =>
      have hrest := ih (n - byteSize c)
      simp only [floorOffset]
      split <;> omega

/-- Rounding down does not go back behind a beginning of the text that fits. -/
theorem byteLength_le_floorOffset (h : byteLength before ≤ n) (after : Text) :
    byteLength before ≤ floorOffset n (before ++ after) := by
  induction before generalizing n with
  | nil =>
      exact Nat.zero_le _
  | cons c before ih =>
      simp only [byteLength] at h
      have hfits : byteSize c ≤ n := by
        omega
      have hrest : byteLength before ≤ floorOffset (n - byteSize c) (before ++ after) := by
        apply ih
        omega
      simp only [List.cons_append, floorOffset, if_pos hfits, byteLength]
      omega

theorem floorsTo_floorOffset (n : Nat) (t : Text) : FloorsTo t n (floorOffset n t) where
  le := floorOffset_le n t
  boundary := isBoundary_floorOffset n t
  greatest m hm hboundary := by
    rcases isBoundary_iff.1 hboundary with ⟨before, after, rfl, rfl⟩
    exact byteLength_le_floorOffset hm after

/-! ## Walking by units -/

/-- The characters that a walk over a given number of units passes. -/
def unitTake : Nat → Text → Text
  | _, [] => []
  | position, c :: t =>
      if position < unitSize c then [] else c :: unitTake (position - unitSize c) t

/-- The characters in front of which such a walk stops. -/
def unitDrop : Nat → Text → Text
  | _, [] => []
  | position, c :: t =>
      if position < unitSize c then c :: t else unitDrop (position - unitSize c) t

theorem unitTake_append_unitDrop (position : Nat) (t : Text) :
    unitTake position t ++ unitDrop position t = t := by
  induction t generalizing position with
  | nil =>
      rfl
  | cons c t ih =>
      rw [unitTake, unitDrop]
      split
      · rfl
      · rw [List.cons_append, ih]

theorem unitLength_unitTake_le (position : Nat) (t : Text) :
    unitLength (unitTake position t) ≤ position := by
  induction t generalizing position with
  | nil =>
      exact Nat.zero_le _
  | cons c t ih =>
      rw [unitTake]
      split
      · exact Nat.zero_le _
      · have hrest := ih (position - unitSize c)
        -- What the rest of the walk passes fits in what the first character leaves.
        rw [unitLength]
        omega

theorem findUnit_eq (position : Nat) (t : Text) :
    findUnit position t =
      ⟨byteLength (unitTake position t), position - unitLength (unitTake position t)⟩ := by
  induction t generalizing position with
  | nil =>
      rfl
  | cons c t ih =>
      rw [findUnit, unitTake]
      split
      · rfl
      -- The walk subtracts one character after the other, the right side all of them at once.
      · rw [ih, byteLength, unitLength, Nat.sub_sub]

theorem extra_add_unitLength (position : Nat) (t : Text) :
    (findUnit position t).extra + unitLength (unitTake position t) = position := by
  have hle := unitLength_unitTake_le position t
  have hextra : (findUnit position t).extra = position - unitLength (unitTake position t) := by
    rw [findUnit_eq]
  omega

theorem drop?_findUnit (position : Nat) (t : Text) :
    drop? (findUnit position t).offset t = some (unitDrop position t) := by
  refine drop?_eq_some_iff.2 ⟨unitTake position t, ?_, ?_⟩
  · exact (unitTake_append_unitDrop position t).symm
  · rw [findUnit_eq]

end Text
end WindowRelay

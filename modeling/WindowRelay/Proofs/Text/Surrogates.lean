import WindowRelay.Proofs.Text.Cutting

/-!
# Surrogates — a text as a sequence of 16-bit units

Input methods see the UTF-16 encoding of a text.  An offset into it can lie between the two units of
a pair, where no character begins.  This file says in terms of the encoding alone where an offset
stands, and where a walk over a number of units stops:

* `Text.units` — the encoding;
* `Text.SplitsPair t n` — the unit at `n` is the second one of a pair;
* `Text.RoundsTo t p n` — `n` is the last offset of the text up to `p` that splits no pair;
* `roundsTo_unitTake` — a walk over `p` units stops at the offset that `p` rounds to.
-/

namespace WindowRelay
namespace Text

/-! ## The encoding -/

/-- A character of the basic plane is its own unit, any other one a leading and a trailing unit. -/
def charUnits (c : Char) : List UInt16 :=
  if c.toNat < 0x10000 then
    [UInt16.ofNat c.toNat]
  else
    [UInt16.ofNat (0xD800 + (c.toNat - 0x10000) / 0x400),
      UInt16.ofNat (0xDC00 + (c.toNat - 0x10000) % 0x400)]

def units : Text → List UInt16
  | [] => []
  | c :: t => charUnits c ++ units t

def isTrailing (u : UInt16) : Bool :=
  decide (0xDC00 ≤ u.toNat ∧ u.toNat ≤ 0xDFFF)

/-- The offset lies inside a pair, so that no character begins or ends there. -/
def SplitsPair (t : Text) (n : Nat) : Prop :=
  (units t)[n]?.any isTrailing = true

instance (t : Text) (n : Nat) : Decidable (SplitsPair t n) :=
  inferInstanceAs (Decidable (_ = true))

/-- The last offset up to `p`, and up to the end of the text, that splits no pair. -/
structure RoundsTo (t : Text) (p n : Nat) : Prop where
  le : n ≤ min p (units t).length
  whole : ¬ SplitsPair t n
  greatest : ∀ m, m ≤ min p (units t).length → ¬ SplitsPair t m → m ≤ n

/-- The surrogates are no characters, so only the second unit of a pair is a trailing one. -/
theorem charUnits_cases (c : Char) :
    (∃ u, unitSize c = 1 ∧ charUnits c = [u] ∧ isTrailing u = false) ∨
      ∃ u v, unitSize c = 2 ∧ charUnits c = [u, v] ∧ isTrailing u = false ∧
        isTrailing v = true := by
  have hvalid : c.toNat < 0xD800 ∨ 0xDFFF < c.toNat ∧ c.toNat < 0x110000 := c.valid
  unfold unitSize charUnits
  split
  · rename_i hbasic
    refine .inl ⟨_, rfl, rfl, ?_⟩
    simp only [isTrailing, UInt16.toNat_ofNat', decide_eq_false_iff_not]
    omega
  · refine .inr ⟨_, _, rfl, rfl, ?_, ?_⟩
    · simp only [isTrailing, UInt16.toNat_ofNat', decide_eq_false_iff_not]
      omega
    · simp only [isTrailing, UInt16.toNat_ofNat', decide_eq_true_eq]
      omega

theorem unitSize_pos (c : Char) : 0 < unitSize c := by
  unfold unitSize
  split <;> omega

theorem length_charUnits (c : Char) : (charUnits c).length = unitSize c := by
  rcases charUnits_cases c with ⟨u, hsize, hunits, -⟩ | ⟨u, v, hsize, hunits, -⟩
  · rw [hsize, hunits]
    rfl
  · rw [hsize, hunits]
    rfl

theorem length_units (t : Text) : (units t).length = unitLength t := by
  induction t with
  | nil =>
      rfl
  | cons c t ih =>
      rw [units, unitLength, List.length_append, length_charUnits, ih]

@[simp]
theorem unitLength_append (s t : Text) : unitLength (s ++ t) = unitLength s + unitLength t := by
  induction s with
  | nil =>
      exact (Nat.zero_add _).symm
  | cons c s ih =>
      simp only [List.cons_append, unitLength, ih, Nat.add_assoc]

theorem unitLength_le_append (s t : Text) : unitLength s ≤ unitLength (s ++ t) := by
  rw [unitLength_append]
  exact Nat.le_add_right _ _

theorem unitLength_le (t : Text) : unitLength t ≤ 2 * t.length := by
  induction t with
  | nil =>
      exact Nat.le_refl 0
  | cons c t ih =>
      have hsize : unitSize c ≤ 2 := by
        unfold unitSize
        split <;> omega
      simp only [unitLength, List.length_cons]
      omega

/-! ## Walks -/

variable {t : Text} {m n p : Nat}

/-- A walk that goes past a text goes on behind it with what is left. -/
theorem unitTake_append {before : Text} (h : unitLength before ≤ p) (after : Text) :
    unitTake p (before ++ after) = before ++ unitTake (p - unitLength before) after := by
  induction before generalizing p with
  | nil =>
      rfl
  | cons c before ih =>
      have hpast : ¬ p < unitSize c := by
        rw [unitLength] at h
        omega
      have hrest : unitLength before ≤ p - unitSize c := by
        rw [unitLength] at h
        omega
      rw [List.cons_append, unitTake, if_neg hpast, ih hrest, unitLength, Nat.sub_sub]
      rfl

theorem unitTake_zero (t : Text) : unitTake 0 t = [] := by
  cases t with
  | nil =>
      rfl
  | cons c t =>
      rw [unitTake, if_pos (unitSize_pos c)]

/-- A walk to the end of a part of the text stops there. -/
theorem unitTake_unitLength (before after : Text) :
    unitTake (unitLength before) (before ++ after) = before := by
  rw [unitTake_append (Nat.le_refl _), Nat.sub_self, unitTake_zero, List.append_nil]

/-- A second walk from where the first one stopped ends where one walk over both would. -/
theorem unitTake_append_unitTake (h : unitLength (unitTake m t) ≤ p) :
    unitTake m t ++ unitTake (p - unitLength (unitTake m t)) (unitDrop m t) = unitTake p t := by
  calc
    unitTake m t ++ unitTake (p - unitLength (unitTake m t)) (unitDrop m t)
        = unitTake p (unitTake m t ++ unitDrop m t) := (unitTake_append h _).symm
    _ = unitTake p t := by rw [unitTake_append_unitDrop]

theorem unitTake_unitTake (p : Nat) (t : Text) :
    unitTake (unitLength (unitTake p t)) t = unitTake p t := by
  have h := unitTake_unitLength (unitTake p t) (unitDrop p t)
  rwa [unitTake_append_unitDrop] at h

theorem unitLength_unitTake_mono (h : m ≤ p) :
    unitLength (unitTake m t) ≤ unitLength (unitTake p t) := by
  have hm : unitLength (unitTake m t) ≤ p := Nat.le_trans (unitLength_unitTake_le m t) h
  rw [← unitTake_append_unitTake hm, unitLength_append]
  exact Nat.le_add_right _ _

theorem unitLength_unitTake_le_self (p : Nat) (t : Text) :
    unitLength (unitTake p t) ≤ unitLength t := by
  calc
    unitLength (unitTake p t) ≤ unitLength (unitTake p t ++ unitDrop p t) :=
          unitLength_le_append _ _
    _ = unitLength t := by rw [unitTake_append_unitDrop]

/-- A walk that is long enough passes the whole text. -/
theorem unitTake_eq_self (h : unitLength t ≤ p) : unitTake p t = t := by
  simpa [unitTake] using unitTake_append h []

theorem unitTake_min (h : unitLength t ≤ n) : unitTake (min p n) t = unitTake p t := by
  by_cases hp : p ≤ n
  · rw [Nat.min_eq_left hp]
  · have hn : n ≤ p := Nat.le_of_not_le hp
    rw [Nat.min_eq_right hn, unitTake_eq_self h, unitTake_eq_self (Nat.le_trans h hn)]

/-! ## Rounding -/

/-- A walk to an offset of the text arrives there, or stops in front of the pair it splits. -/
theorem unitLength_unitTake_add (h : n ≤ unitLength t) :
    unitLength (unitTake n t) + (if SplitsPair t n then 1 else 0) = n := by
  induction t generalizing n with
  | nil =>
      obtain rfl : n = 0 := Nat.le_zero.1 h
      rfl
  | cons c t ih =>
      by_cases hpast : n < unitSize c
      · -- The walk stops in front of `c`, and the offset is at one of the units of `c`.
        have hstop : unitTake n (c :: t) = [] := by
          rw [unitTake, if_pos hpast]
        rcases charUnits_cases c with ⟨u, hsize, hunits, hu⟩ | ⟨u, v, hsize, hunits, hu, hv⟩
        · obtain rfl : n = 0 := by omega
          simp [SplitsPair, units, hunits, hu, hstop, unitLength]
        · have hn : n = 0 ∨ n = 1 := by omega
          rcases hn with rfl | rfl
          · simp [SplitsPair, units, hunits, hu, hstop, unitLength]
          · simp [SplitsPair, units, hunits, hv, hstop, unitLength]
      · have hge : unitSize c ≤ n := Nat.le_of_not_lt hpast
        have hrest : n - unitSize c ≤ unitLength t := by
          rw [unitLength] at h
          omega
        have hunit : (units (c :: t))[n]? = (units t)[n - unitSize c]? := by
          rw [units, List.getElem?_append_right (by rw [length_charUnits]; exact hge),
            length_charUnits]
        have hsplits : SplitsPair (c :: t) n ↔ SplitsPair t (n - unitSize c) := by
          rw [SplitsPair, SplitsPair, hunit]
        have hafter := ih hrest
        simp only [hsplits, unitTake, if_neg hpast, unitLength]
        omega

/-- The offsets that split no pair are those at which a walk can stop. -/
theorem not_splitsPair_iff (h : n ≤ unitLength t) :
    ¬ SplitsPair t n ↔ unitLength (unitTake n t) = n := by
  have hsum := unitLength_unitTake_add h
  by_cases hsplits : SplitsPair t n
  · simp only [hsplits, if_true] at hsum
    simp only [hsplits, not_true_eq_false, false_iff]
    omega
  · simpa [hsplits] using hsum

theorem SplitsPair.lt_unitLength (h : SplitsPair t n) : n < unitLength t := by
  by_contra hend
  have hnone : (units t)[n]? = none := by
    apply List.getElem?_eq_none
    rw [length_units]
    exact Nat.le_of_not_lt hend
  simp [SplitsPair, hnone] at h

theorem SplitsPair.unitLength_unitTake (h : SplitsPair t n) :
    unitLength (unitTake n t) + 1 = n := by
  simpa [h] using unitLength_unitTake_add (Nat.le_of_lt h.lt_unitLength)

theorem roundsTo_unitTake (p : Nat) (t : Text) : RoundsTo t p (unitLength (unitTake p t)) where
  le := by
    rw [length_units]
    exact Nat.le_min.2 ⟨unitLength_unitTake_le p t, unitLength_unitTake_le_self p t⟩
  whole := by
    rw [not_splitsPair_iff (unitLength_unitTake_le_self p t), unitTake_unitTake]
  greatest m hm hwhole := by
    rw [length_units] at hm
    have hend : m ≤ unitLength t := Nat.le_trans hm (Nat.min_le_right _ _)
    calc
      m = unitLength (unitTake m t) := ((not_splitsPair_iff hend).1 hwhole).symm
      _ ≤ unitLength (unitTake p t) :=
            unitLength_unitTake_mono (Nat.le_trans hm (Nat.min_le_left _ _))

theorem RoundsTo.unique (hm : RoundsTo t p m) (hn : RoundsTo t p n) : m = n :=
  Nat.le_antisymm (hn.greatest m hm.le hm.whole) (hm.greatest n hn.le hn.whole)

/-- One unit more makes a walk longer if it brings it to the end of a character. -/
theorem unitLength_unitTake_succ (n : Nat) (t : Text) :
    unitLength (unitTake n t) = unitLength (unitTake (n + 1) t) ↔
      ¬ (n + 1 ≤ unitLength t ∧ ¬ SplitsPair t (n + 1)) := by
  have hshort : unitLength (unitTake n t) ≤ n := unitLength_unitTake_le n t
  constructor
  · rintro hsame ⟨hend, hwhole⟩
    have harrives := (not_splitsPair_iff hend).1 hwhole
    omega
  · intro hnot
    have hlong := roundsTo_unitTake (n + 1) t
    have hend := Nat.le_min.1 hlong.le
    rw [length_units] at hend
    -- The longer walk does not arrive either, so it stops at an offset up to `n`.
    have hne : unitLength (unitTake (n + 1) t) ≠ n + 1 := by
      intro heq
      apply hnot
      rw [heq] at hend
      exact ⟨hend.2, heq ▸ hlong.whole⟩
    have hle : unitLength (unitTake (n + 1) t) ≤ min n (units t).length := by
      rw [length_units]
      omega
    apply Nat.le_antisymm
    · exact unitLength_unitTake_mono (Nat.le_succ n)
    · exact (roundsTo_unitTake n t).greatest _ hle hlong.whole

/-! ## Units and bytes -/

theorem byteSize_bounds (c : Char) : unitSize c ≤ byteSize c ∧ byteSize c ≤ 3 * unitSize c := by
  have hcode : c.val.toNat = c.toNat := rfl
  unfold byteSize unitSize Char.utf8Size
  simp only [UInt32.le_iff_toNat_le, UInt32.toNat_ofNatLT, hcode]
  -- The last character of three bytes is the last one of the basic plane.
  split_ifs <;> omega

/-- A unit takes at most three bytes: a pair is encoded in four. -/
theorem byteLength_le (t : Text) : byteLength t ≤ 3 * unitLength t := by
  induction t with
  | nil =>
      exact Nat.zero_le _
  | cons c t ih =>
      have hc := (byteSize_bounds c).2
      rw [byteLength, unitLength]
      omega

theorem unitLength_le_byteLength (t : Text) : unitLength t ≤ byteLength t := by
  induction t with
  | nil =>
      exact Nat.zero_le _
  | cons c t ih =>
      exact Nat.add_le_add (byteSize_bounds c).1 ih

theorem unitLength_eq_zero_iff {t : Text} : unitLength t = 0 ↔ t = [] := by
  cases t with
  | nil =>
      simp [unitLength]
  | cons c t =>
      have hc := unitSize_pos c
      simp only [unitLength, reduceCtorEq, iff_false]
      omega

/-- Of two walks from the beginning, the longer one passes more bytes if it passes more units. -/
theorem byteLength_unitTake_eq_iff (h : m ≤ p) :
    byteLength (unitTake m t) = byteLength (unitTake p t) ↔
      unitLength (unitTake m t) = unitLength (unitTake p t) := by
  have hreach : unitLength (unitTake m t) ≤ p := Nat.le_trans (unitLength_unitTake_le m t) h
  rw [← unitTake_append_unitTake hreach, byteLength_append, unitLength_append]
  generalize unitTake (p - unitLength (unitTake m t)) (unitDrop m t) = more
  have hbytes : byteLength more = 0 ↔ unitLength more = 0 := by
    rw [byteLength_eq_zero_iff, unitLength_eq_zero_iff]
  omega

/-- Where the bytes that a walk passes are kept, it makes no difference to cut the text. -/
theorem unitTake_floorTake (h : byteLength (unitTake p t) ≤ n) :
    unitTake p (floorTake n t) = unitTake p t := by
  induction t generalizing n p with
  | nil =>
      rfl
  | cons c t ih =>
      by_cases hpast : p < unitSize c
      · have hstop (s : Text) : unitTake p (c :: s) = [] := by
          rw [unitTake, if_pos hpast]
        rw [floorTake, hstop]
        split
        · exact hstop _
        · rfl
      · rw [unitTake, if_neg hpast, byteLength] at h
        have hkept : byteSize c ≤ n := by omega
        rw [floorTake, if_pos hkept, unitTake, if_neg hpast, unitTake, if_neg hpast, ih (by omega)]

end Text
end WindowRelay

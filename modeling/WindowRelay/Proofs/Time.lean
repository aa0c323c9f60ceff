import WindowRelay.Time

/-!
# Time — the order of times

Times are ordered as their nanoseconds are, with the later and the earlier of two given by `max`
and `min`.

- `Time.le_iff`, `Time.lt_iff`, `Time.eq_iff_nanoseconds`: comparisons in nanoseconds.
- `Time.max_eq`, `Time.nanoseconds_max`: the later of two times.
-/

namespace WindowRelay
namespace Time

variable {a b c : Time}

/-! ## Comparisons -/

theorem le_iff : a ≤ b ↔ a.nanoseconds ≤ b.nanoseconds :=
  Iff.rfl

theorem lt_iff : a < b ↔ a.nanoseconds < b.nanoseconds :=
  Iff.rfl

theorem eq_iff_nanoseconds : a = b ↔ a.nanoseconds = b.nanoseconds := by
  cases a
  cases b
  simp

theorem le_trans (h : a ≤ b) (h' : b ≤ c) : a ≤ c :=
  Nat.le_trans h h'

theorem not_le : ¬ a ≤ b ↔ b < a :=
  Nat.not_le

theorem nanoseconds_sub (a b : Time) : (a - b).nanoseconds = a.nanoseconds - b.nanoseconds :=
  rfl

instance : Std.IsLinearOrder Time where
  le_refl a := Nat.le_refl a.nanoseconds
  le_trans _ _ _ := le_trans
  le_antisymm _ _ h h' := eq_iff_nanoseconds.2 (Nat.le_antisymm h h')
  le_total a b := Nat.le_total a.nanoseconds b.nanoseconds

/-! ## The later of two times -/

theorem max_eq (a b : Time) : max a b = if a ≤ b then b else a :=
  rfl

theorem le_max_left (a b : Time) : a ≤ max a b := by
  rw [max_eq]
  split
  · assumption
  · exact Nat.le_refl a.nanoseconds

theorem le_max_right (a b : Time) : b ≤ max a b := by
  rw [max_eq]
  split
  · exact Nat.le_refl b.nanoseconds
  · exact Nat.le_of_not_le ‹¬ a ≤ b›

theorem max_eq_or (a b : Time) : max a b = a ∨ max a b = b := by
  rw [max_eq]
  split
  · exact .inr rfl
  · exact .inl rfl

theorem max_eq_right (h : a ≤ b) : max a b = b := by
  rw [max_eq, if_pos h]

theorem nanoseconds_max (a b : Time) :
    (max a b).nanoseconds = max a.nanoseconds b.nanoseconds := by
  rw [max_eq, Nat.max_def]
  exact apply_ite Time.nanoseconds (a ≤ b) b a

/-! ## The earlier of two times -/

theorem min_eq (a b : Time) : min a b = if a ≤ b then a else b :=
  rfl

instance : Std.LawfulOrderMin Time where
  min_eq_or a b := by
    rw [min_eq]
    split
    · exact .inl rfl
    · exact .inr rfl
  le_min_iff a b c := by
    rw [min_eq]
    simp only [le_iff]
    split <;> omega

end Time
end WindowRelay

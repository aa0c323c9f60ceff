import WindowRelay.Scalar

/-!
# Exact — coordinates without rounding

The rational numbers as scalars.  What holds for every type of scalars can be tried out on them,
with positions that can be compared and amounts that add up.
-/

namespace WindowRelay

/-- The bounds of a signed 32-bit number. -/
def clampInt32 (n : Int) : Int :=
  max (-(Int.pow 2 31)) (min (Int.pow 2 31 - 1) n)

instance : Scalar Rat where
  ofInt n := n
  isZero x := decide (x = 0)
  isProper x := decide (0 < x)
  nearestInt32 x := clampInt32 (if 0 ≤ x then (x + 1 / 2).floor else (x - 1 / 2).ceil)

example : Scalar.nearestInt32 (5 / 2 : Rat) = 3 ∧ Scalar.nearestInt32 (-5 / 2 : Rat) = -3 := by
  decide +kernel

theorem Scalar.ofInt_rat (n : Int) : (Scalar.ofInt n : Rat) = n :=
  rfl

theorem Scalar.zero_rat : (Scalar.zero : Rat) = 0 :=
  rfl

namespace Point

instance : Add (Point Rat) where
  add p q := ⟨p.x + q.x, p.y + q.y⟩

theorem add_eq (p q : Point Rat) : p + q = ⟨p.x + q.x, p.y + q.y⟩ :=
  rfl

theorem scale_eq (p : Point Rat) (k : Rat) : p.scale k = ⟨p.x * k, p.y * k⟩ :=
  rfl

end Point

/-- All of some amounts together. -/
def Delta.sum (ds : List (Delta Rat)) : Delta Rat :=
  ds.foldr (· + ·) Point.zero

end WindowRelay

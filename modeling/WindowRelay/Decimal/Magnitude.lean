/-!
# Magnitudes — finite numbers taken exactly

The size of a finite floating-point number is a whole number of units of `2 ^ -1074`.  As a
`Magnitude` it can be compared and scaled in natural numbers, without any rounding.
-/

namespace WindowRelay

/-- The number `mantissa * 2 ^ scale / 2 ^ 1074`. -/
structure Magnitude where
  mantissa : Nat
  scale : Nat
  deriving DecidableEq, Repr

namespace Magnitude

/-- How many units make one. -/
def one : Nat :=
  Nat.pow 2 1074

def units (m : Magnitude) : Nat :=
  m.mantissa * Nat.pow 2 m.scale

/-- The size of a number; infinities and NaN have none. -/
def ofFloat? (x : Float) : Option Magnitude :=
  let bits := x.toBits.toNat
  let exponent := bits / Nat.pow 2 52 % Nat.pow 2 11
  let fraction := bits % Nat.pow 2 52
  if exponent = 2047 then none
  else if exponent = 0 then some ⟨fraction, 0⟩
  else some ⟨Nat.pow 2 52 + fraction, exponent - 1⟩

/-- Whether the sign of a number is set, as it also is in a negative zero. -/
def signOf (x : Float) : Bool :=
  decide (Nat.pow 2 63 ≤ x.toBits.toNat)

end Magnitude

end WindowRelay

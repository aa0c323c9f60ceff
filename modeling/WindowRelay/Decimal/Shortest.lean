import WindowRelay.Decimal.Magnitude

/-!
# Shortest decimals

Many decimals are nearest to the same floating-point number, and reading any of them gives that
number back.  `Decimal.shortest` picks the one with the fewest digits, and of two such the one
closer to the number.

All decimals that read back lie in an interval around the number: up to half the distance to the
next number on either side, ends included exactly when the mantissa is even.  The coarsest power
of ten that has a multiple in the interval is found by trying them in turn, and only the two
multiples next to the number have to be tried.  Everything is compared in natural numbers, in
quarters of a unit.
-/

namespace WindowRelay

/-- The number `digits * 10 ^ exponent`. -/
structure Decimal where
  digits : Nat
  exponent : Int
  deriving DecidableEq, Repr

namespace Decimal

/-! ## The interval of a number -/

/-- Quarters of a unit from a number down to the end of its interval.  The numbers below a power
of two are twice as dense as those above it. -/
def marginBelow (m : Magnitude) : Nat :=
  if m.mantissa = Nat.pow 2 52 ∧ m.scale ≠ 0 then Nat.pow 2 m.scale else 2 * Nat.pow 2 m.scale

def marginAbove (m : Magnitude) : Nat :=
  2 * Nat.pow 2 m.scale

/-- How much a power of ten scales the number it is compared with, and itself. -/
def numberFactor (exponent : Int) : Nat :=
  Nat.pow 10 (-exponent).toNat

/-- A power of ten in quarters of a unit, scaled by its `numberFactor`. -/
def gridStep (exponent : Int) : Nat :=
  4 * Magnitude.one * Nat.pow 10 exponent.toNat

/-- Whether a decimal is read as a given number. -/
def ReadsBack (m : Magnitude) (d : Decimal) : Prop :=
  let low := (4 * m.units - marginBelow m) * numberFactor d.exponent
  let high := (4 * m.units + marginAbove m) * numberFactor d.exponent
  let value := d.digits * gridStep d.exponent
  if m.mantissa % 2 = 0 then low ≤ value ∧ value ≤ high else low < value ∧ value < high

instance (m : Magnitude) (d : Decimal) : Decidable (ReadsBack m d) := by
  unfold ReadsBack
  infer_instance

/-! ## The search -/

/-- The multiple of `10 ^ exponent` that is closer to a number, of the one at or below it and the
next one.  Of two equally close ones the even one. -/
def closest (m : Magnitude) (exponent : Int) : Decimal :=
  let number := 4 * m.units * numberFactor exponent
  let below := number / gridStep exponent
  let rest := number % gridStep exponent
  if 2 * rest < gridStep exponent ∨ (2 * rest = gridStep exponent ∧ below % 2 = 0) then
    ⟨below, exponent⟩
  else
    ⟨below + 1, exponent⟩

/-- The multiple of `10 ^ exponent` next to a number that is read as the number, if there is
one.  The closer of the two neighbours comes first. -/
def onGrid? (m : Magnitude) (exponent : Int) : Option Decimal :=
  let below := 4 * m.units * numberFactor exponent / gridStep exponent
  [closest m exponent, ⟨below, exponent⟩, ⟨below + 1, exponent⟩].find? fun d =>
    decide (ReadsBack m d)

/-- The exponents of ten that can occur, coarsest first. -/
def exponents : List Int :=
  (List.range 633).map fun (i : Nat) => 308 - (i : Int)

/-- The exact value.  It always reads back, and has the most digits. -/
def exact (m : Magnitude) : Decimal :=
  ⟨m.units * Nat.pow 5 1074, -1074⟩

def shortest (m : Magnitude) : Decimal :=
  if m.mantissa = 0 then ⟨0, 0⟩ else (exponents.findSome? (onGrid? m)).getD (exact m)

end Decimal

end WindowRelay

/-!
# Scalar — the number type of coordinates

Positions, deltas and sizes are built over a type `K` of scalars.  The relay runs on `Float`; a
statement about its geometry "in exact arithmetic" is a statement about another instance, such as
the rational numbers.  This file defines:

* `Scalar K` — the arithmetic and the few decisions the relay takes on numbers;
* `Point K`, `Size K`, `Rect K` — vectors and rectangles over `K`.

Every formula elsewhere is written with these operations alone, so its order of operations (and
with it every rounding) is fixed by its text.
-/

namespace WindowRelay

/-! ## Scalars -/

class Scalar (K : Type) extends Add K, Sub K, Mul K, Div K, Neg K where
  ofInt : Int → K
  /-- Whether a number equals zero.  A number that is not comparable to zero is not zero. -/
  isZero : K → Bool
  /-- Whether a number is finite and greater than zero. -/
  isProper : K → Bool
  /-- The nearest integer, halves away from zero, clamped to the signed 32-bit range. -/
  nearestInt32 : K → Int

namespace Scalar

variable {K : Type} [Scalar K]

def zero : K :=
  ofInt 0

def one : K :=
  ofInt 1

def ofNat (n : Nat) : K :=
  ofInt n

end Scalar

instance : Scalar Float where
  ofInt := Float.ofInt
  isZero x := x == 0.0
  isProper x := x.isFinite && 0.0 < x
  nearestInt32 x := x.round.toInt32.toInt

/-! ## Vectors and rectangles -/

/-- A position in the content area: origin at the top-left corner, `y` growing downward. -/
structure Point (K : Type) where
  x : K
  y : K
  deriving DecidableEq, Repr, Inhabited

/-- A scroll amount, or a scroll velocity.  Signs follow the movement of the scrolled contents. -/
abbrev Delta (K : Type) : Type :=
  Point K

namespace Point

variable {K : Type} [Scalar K]

def zero : Point K :=
  ⟨Scalar.zero, Scalar.zero⟩

def isZero (p : Point K) : Bool :=
  Scalar.isZero p.x && Scalar.isZero p.y

def scale (p : Point K) (k : K) : Point K :=
  ⟨p.x * k, p.y * k⟩

def divide (p : Point K) (k : K) : Point K :=
  ⟨p.x / k, p.y / k⟩

def neg (p : Point K) : Point K :=
  ⟨-p.x, -p.y⟩

end Point

structure Size (K : Type) where
  width : K
  height : K
  deriving DecidableEq, Repr, Inhabited

structure Rect (K : Type) where
  origin : Point K
  size : Size K
  deriving DecidableEq, Repr, Inhabited

def Rect.zero {K : Type} [Scalar K] : Rect K :=
  ⟨Point.zero, ⟨Scalar.zero, Scalar.zero⟩⟩

end WindowRelay

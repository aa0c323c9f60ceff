import WindowRelay.Decimal.Magnitude
import WindowRelay.Scalar

/-!
# Time — whole nanoseconds

A `Time` is a distance from an origin that the clock's owner chose, or a delay.  It is a whole
number of nanoseconds, so that comparing, subtracting and taking the later of two times are exact.
`Time.secs` and `Time.nanos` split it for output; `Time.toSeconds` is the one place where a time
becomes a scalar, and `Time.ofSeconds?` the one where a floating-point number becomes a time.
-/

namespace WindowRelay

structure Time where
  nanoseconds : Nat
  deriving DecidableEq, Repr, Inhabited

namespace Time

def nanosPerSec : Nat :=
  1000000000

/-- The number of seconds a 64-bit second count cannot reach. -/
def secsLimit : Nat :=
  Nat.pow 2 64

def zero : Time :=
  ⟨0⟩

def ofParts (secs nanos : Nat) : Time :=
  ⟨secs * nanosPerSec + nanos⟩

def ofMillis (ms : Nat) : Time :=
  ⟨ms * 1000000⟩

def secs (t : Time) : Nat :=
  t.nanoseconds / nanosPerSec

def nanos (t : Time) : Nat :=
  t.nanoseconds % nanosPerSec

instance : LE Time :=
  ⟨fun a b => a.nanoseconds ≤ b.nanoseconds⟩

instance : LT Time :=
  ⟨fun a b => a.nanoseconds < b.nanoseconds⟩

instance (a b : Time) : Decidable (a ≤ b) :=
  inferInstanceAs (Decidable (a.nanoseconds ≤ b.nanoseconds))

instance (a b : Time) : Decidable (a < b) :=
  inferInstanceAs (Decidable (a.nanoseconds < b.nanoseconds))

instance : Max Time :=
  ⟨fun a b => if a ≤ b then b else a⟩

instance : Min Time :=
  ⟨fun a b => if a ≤ b then a else b⟩

instance : Add Time :=
  ⟨fun a b => ⟨a.nanoseconds + b.nanoseconds⟩⟩

/-- The time from `b` to `a`, and zero when `b` is the later one. -/
instance : Sub Time :=
  ⟨fun a b => ⟨a.nanoseconds - b.nanoseconds⟩⟩

/-! ## Seconds as numbers -/

def toSeconds {K : Type} [Scalar K] (t : Time) : K :=
  Scalar.ofNat t.secs + Scalar.ofNat t.nanos / Scalar.ofNat nanosPerSec

/-- A quotient of natural numbers rounded to the nearest natural number, halves to the even one. -/
def roundDivEven (num den : Nat) : Nat :=
  let q := num / den
  let r := num % den
  if 2 * r < den then q
  else if den < 2 * r then q + 1
  else q + q % 2

/-- The nearest nanosecond to a number of seconds, halves to the even one.  `none` for what is no
time: a negative number, one of `2 ^ 64` seconds or more, or NaN.  Negative zero is zero. -/
def ofSeconds? (x : Float) : Option Time :=
  match Magnitude.ofFloat? x with
  | none => none
  | some m =>
      let n := roundDivEven (m.units * nanosPerSec) Magnitude.one
      if (Magnitude.signOf x && m.mantissa != 0) || secsLimit * nanosPerSec ≤ n then
        none
      else
        some ⟨n⟩

end Time

end WindowRelay

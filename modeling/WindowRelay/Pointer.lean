import WindowRelay.Label
import WindowRelay.Mask
import WindowRelay.Scalar

/-!
# Pointer — buttons and pointer events

Toolkits number their mouse buttons differently; the relay counts from zero, with left, right,
middle, back and forward first.  `MouseButton.ofIndex?` admits the buttons that a held-button set
can tell apart, those with an index up to 31; no toolkit makes any other.  A button decoded from a
stored value may have any index that a byte has.

The bit of a button is a one shifted by its index.  For an index above 31 that shift overflows, and
here the library follows a build that does not check for overflow: the index counts modulo 32, and
the button shares the bit of the button 32 below it.  A checked build gives up instead.  Up to 31
the two agree, so no bit of a button that a toolkit reports depends on the build.  Everywhere else
the library follows the checked build, and an overflow is a `Fault`.

Some toolkits report the second press of a double click twice.  The extra report is marked
`Activation.synthetic`, and `PointerEvent.primary?` drops it.
-/

namespace WindowRelay

/-! ## Buttons -/

structure MouseButton where
  index : UInt8
  deriving DecidableEq, Repr, Inhabited

namespace MouseButton

def left : MouseButton :=
  ⟨0⟩

def right : MouseButton :=
  ⟨1⟩

def middle : MouseButton :=
  ⟨2⟩

def back : MouseButton :=
  ⟨3⟩

def forward : MouseButton :=
  ⟨4⟩

/-- The largest index that a held-button set tracks. -/
def maxIndex : Nat :=
  31

/-- The button with a given index, if the index is one that can be tracked. -/
def ofIndex? (n : Nat) : Option MouseButton :=
  if n ≤ maxIndex then some ⟨UInt8.ofNat n⟩ else none

instance : Bit MouseButton where
  position b := ⟨b.index.toNat % 32, Nat.mod_lt _ (by decide)⟩

end MouseButton

/-- The buttons that are held down. -/
abbrev ButtonSet : Type :=
  Mask MouseButton

/-! ## Events -/

inductive Activation
  | primary
  | synthetic
  deriving DecidableEq, Repr, Inhabited

instance : Labelled Activation where
  all := [.primary, .synthetic]
  label
    | .primary => "Primary"
    | .synthetic => "Synthetic"

/-- A pointer event in content coordinates.  Without a button it is motion, and `pressed` means
nothing. -/
structure PointerEvent (K : Type) where
  position : Point K
  button : Option MouseButton
  pressed : Bool
  activation : Activation
  deriving DecidableEq, Repr

namespace PointerEvent

variable {K : Type}

def motion (p : Point K) : PointerEvent K :=
  ⟨p, none, false, .primary⟩

def press (p : Point K) (b : MouseButton) : PointerEvent K :=
  ⟨p, some b, true, .primary⟩

def release (p : Point K) (b : MouseButton) : PointerEvent K :=
  ⟨p, some b, false, .primary⟩

def synthetic (e : PointerEvent K) : PointerEvent K :=
  { e with activation := .synthetic }

/-- The event, unless it duplicates one that was already reported. -/
def primary? (e : PointerEvent K) : Option (PointerEvent K) :=
  match e.activation with
  | .primary => some e
  | .synthetic => none

end PointerEvent

end WindowRelay

import WindowRelay.Label
import WindowRelay.Mask
import WindowRelay.Scalar
import WindowRelay.Time

/-!
# AppKit events

The fields of a native event that the relay reads.  Positions are window coordinates with the
origin at the bottom-left corner.  A wheel event carries a phase of the fingers and a phase of the
momentum that follows them; both are sets of bits.
-/

namespace WindowRelay
namespace AppKit

inductive EventType
  | leftMouseDown
  | leftMouseUp
  | rightMouseDown
  | rightMouseUp
  | otherMouseDown
  | otherMouseUp
  | mouseMoved
  | leftMouseDragged
  | rightMouseDragged
  | otherMouseDragged
  | mouseExited
  | scrollWheel
  deriving DecidableEq, Repr

instance : Labelled EventType where
  all :=
    [.leftMouseDown, .leftMouseUp, .rightMouseDown, .rightMouseUp, .otherMouseDown,
      .otherMouseUp, .mouseMoved, .leftMouseDragged, .rightMouseDragged, .otherMouseDragged,
      .mouseExited, .scrollWheel]
  label
    | .leftMouseDown => "LeftMouseDown"
    | .leftMouseUp => "LeftMouseUp"
    | .rightMouseDown => "RightMouseDown"
    | .rightMouseUp => "RightMouseUp"
    | .otherMouseDown => "OtherMouseDown"
    | .otherMouseUp => "OtherMouseUp"
    | .mouseMoved => "MouseMoved"
    | .leftMouseDragged => "LeftMouseDragged"
    | .rightMouseDragged => "RightMouseDragged"
    | .otherMouseDragged => "OtherMouseDragged"
    | .mouseExited => "MouseExited"
    | .scrollWheel => "ScrollWheel"

inductive PhaseBit
  | began
  | stationary
  | changed
  | ended
  | cancelled
  | mayBegin
  deriving DecidableEq, Repr

instance : Bit PhaseBit where
  position
    | .began => 0
    | .stationary => 1
    | .changed => 2
    | .ended => 3
    | .cancelled => 4
    | .mayBegin => 5

instance : Bit.Distinct PhaseBit where
  position_injective := by
    intro a b
    cases a <;> cases b <;> simp [Bit.position]

abbrev Phase : Type :=
  Mask PhaseBit

structure Event (K : Type) where
  type : EventType
  location : Point K
  /-- 0 for the left button, 1 for the right one, 2 and up for others. -/
  buttonNumber : Int
  delta : Delta K
  hasPreciseDeltas : Bool
  phase : Phase
  momentum : Phase
  /-- Seconds since the system started. -/
  timestamp : Float

namespace Event

variable {K : Type}

/-- The button number a new event has. -/
def standardButton : EventType → Int
  | .rightMouseDown | .rightMouseUp => 1
  | .otherMouseDown | .otherMouseUp => 2
  | _ => 0

def ofType [Scalar K] (type : EventType) (location : Point K) : Event K :=
  ⟨type, location, standardButton type, Point.zero, false, Mask.empty, Mask.empty, 0.0⟩

def scrollWheel [Scalar K] (location : Point K) (delta : Delta K) : Event K :=
  { ofType .scrollWheel location with delta := delta }

/-- The time of an event.  A number of seconds that is no time counts as zero. -/
def time (e : Event K) : Time :=
  (Time.ofSeconds? e.timestamp).getD Time.zero

/-- Whether a wheel event belongs to a phased gesture. -/
def isPhased (e : Event K) : Bool :=
  !(e.phase.union e.momentum).isEmpty

end Event

end AppKit
end WindowRelay

import WindowRelay.Label
import WindowRelay.Pointer
import WindowRelay.Time

/-!
# GTK events

The signals and events of a drawing area that the relay handles.  Positions are logical pixels
with the origin at the top-left corner; times are a 32-bit count of milliseconds.  Buttons have
the numbers of the X11 protocol, where the middle button comes before the right one and 4 to 7
stand for the wheel.
-/

namespace WindowRelay
namespace Gtk

inductive ButtonEventType
  | press
  /-- Sent in addition to the second press of a double click. -/
  | doublePress
  /-- Sent in addition to the third press of a triple click. -/
  | triplePress
  | release
  deriving DecidableEq, Repr

instance : Labelled ButtonEventType where
  all := [.press, .doublePress, .triplePress, .release]
  label
    | .press => "ButtonPress"
    | .doublePress => "DoubleButtonPress"
    | .triplePress => "TripleButtonPress"
    | .release => "ButtonRelease"

inductive WheelDirection
  | up
  | down
  | left
  | right
  /-- The amount is in the delta. -/
  | smooth
  deriving DecidableEq, Repr

instance : Labelled WheelDirection where
  all := [.up, .down, .left, .right, .smooth]
  label
    | .up => "Up"
    | .down => "Down"
    | .left => "Left"
    | .right => "Right"
    | .smooth => "Smooth"

structure ButtonEvent (K : Type) where
  type : ButtonEventType
  position : Point K
  button : UInt32
  time : UInt32
  deriving DecidableEq, Repr

structure WheelEvent (K : Type) where
  position : Point K
  direction : WheelDirection
  /-- In lines, growing to the right and downward. -/
  delta : Delta K
  /-- The last event of a kinetic sequence. -/
  isStop : Bool
  time : UInt32
  deriving DecidableEq, Repr

inductive Event (K : Type)
  | button (e : ButtonEvent K)
  | motion (position : Point K) (time : UInt32)
  | scroll (e : WheelEvent K)
  | leaveNotify
  | focus (gained : Bool)
  | grabBroken
  | sizeAllocate
  | scaleFactorChanged
  | frameClockUpdate
  | delete
  | destroy
  deriving DecidableEq, Repr

/-- Whether other handlers get to see an event. -/
inductive Propagation
  | stop
  | proceed
  deriving DecidableEq, Repr

instance : Labelled Propagation where
  all := [.stop, .proceed]
  label
    | .stop => "Stop"
    | .proceed => "Proceed"

def Propagation.isStop (p : Propagation) : Bool :=
  decide (p = .stop)

/-- The button with a protocol number.  Wheel numbers, and zero, name none. -/
def buttonOfNumber? (n : Nat) : Option MouseButton :=
  match n with
  | 0 | 4 | 5 | 6 | 7 => none
  | 1 => some .left
  | 2 => some .middle
  | 3 => some .right
  | 8 => some .back
  | 9 => some .forward
  | n => MouseButton.ofIndex? (n - 5)

end Gtk
end WindowRelay

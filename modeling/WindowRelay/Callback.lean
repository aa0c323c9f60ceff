import WindowRelay.Label
import WindowRelay.Pointer
import WindowRelay.Scroll.Event

/-!
# Callbacks

What a listener is told.  The listener of a window hands out gesture sessions: a drag when a
button is pressed, a scroll gesture when fingers start to move.  A session is named by its number
in the order of opening, and hears of the rest of its gesture by `DragCall`s or `ScrollCall`s, of
which exactly one is terminal.
-/

namespace WindowRelay

/-- The two ways a session can end.  After a cancel the listener undoes what the gesture did. -/
inductive Ending
  | release
  | cancel
  deriving DecidableEq, Repr

inductive SessionKind
  | drag
  | scroll
  deriving DecidableEq, Repr

instance : Labelled SessionKind where
  all := [.drag, .scroll]
  label
    | .drag => "Drag"
    | .scroll => "Scroll"

inductive DragCall (K : Type)
  | motion (position : Point K)
  | mouseDown (position : Point K) (button : MouseButton)
  | mouseUp (position : Point K) (button : MouseButton)
  | ended (how : Ending)
  deriving DecidableEq, Repr

inductive ScrollCall (K : Type)
  | motion (precise : Bool) (delta velocity : Delta K)
  | startMomentum
  /-- No more motion follows. -/
  | finish
  | ended (how : Ending)
  deriving DecidableEq, Repr

inductive Callback (K : Type)
  | shouldClose
  | closed
  | resized
  | scaleFactorChanged
  | updateReady
  | focus (gained : Bool)
  | mouseMotion (position : Point K)
  | mouseLeave
  | mouseButton (position : Point K) (pressed : Bool) (button : MouseButton)
  | hitTest (position : Point K)
  | scrollDiscrete (position : Point K) (delta : Delta K)
  | scrollContinuous (position : Point K) (delta : Delta K) (time : Time)
  | scrollStop (time : Time)
  | beginDrag (session : Nat) (position : Point K) (button : MouseButton)
  | beginScroll (session : Nat) (position : Point K)
  | drag (session : Nat) (call : DragCall K)
  | scroll (session : Nat) (call : ScrollCall K)
  deriving DecidableEq, Repr

namespace Callback

variable {K : Type}

/-- The open session that a callback is made on. -/
def session? : Callback K → Option Nat
  | .drag s _ => some s
  | .scroll s _ => some s
  | _ => none

def isTerminal : Callback K → Bool
  | .drag _ (.ended _) => true
  | .scroll _ (.ended _) => true
  | _ => false

/-! ## Names -/

/-- The name of a callback in logs. -/
def name : Callback K → String
  | .shouldClose => "should_close"
  | .closed => "closed"
  | .resized => "resized"
  | .scaleFactorChanged => "scale_factor_changed"
  | .updateReady => "update_ready"
  | .focus _ => "focus"
  | .mouseMotion _ => "mouse_motion"
  | .mouseLeave => "mouse_leave"
  | .mouseButton _ _ _ => "mouse_button"
  | .hitTest _ => "nc_hit_test"
  | .scrollDiscrete _ _ => "scroll_discrete"
  | .scrollContinuous _ _ _ => "scroll_continuous"
  | .scrollStop _ => "scroll_stop"
  | .beginDrag _ _ _ => "begin_drag"
  | .beginScroll _ _ => "begin_scroll_gesture"
  | .drag _ (.motion _) => "drag.motion"
  | .drag _ (.mouseDown _ _) => "drag.mouse_down"
  | .drag _ (.mouseUp _ _) => "drag.mouse_up"
  | .drag _ (.ended .release) => "drag.release"
  | .drag _ (.ended .cancel) => "drag.cancel"
  | .scroll _ (.motion _ _ _) => "scroll.motion"
  | .scroll _ .startMomentum => "scroll.start_momentum_phase"
  | .scroll _ .finish => "scroll.end"
  | .scroll _ (.ended .release) => "scroll.release"
  | .scroll _ (.ended .cancel) => "scroll.cancel"

end Callback

end WindowRelay

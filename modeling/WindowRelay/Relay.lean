import WindowRelay.Gesture.Arbiter
import WindowRelay.Scroll.Phase
import WindowRelay.Window.Attributes

/-!
# Relay — everything the library knows about one window

The toolkits turn their native events into calls on the `Relay` of the window.  A relay owns the
window's arbiter (and, through it, the line to the listener), the scroll phase tracker, and the set
of buttons whose press was handed on and whose release was not yet.

* `Relay.Call`, `Relay.step` — the calls, one by one;
* `Relay.drop` — the end of the relay itself, which cancels what is open.

Events after the close of the window still pass through here, but find the line cut.
-/

namespace WindowRelay

structure Relay (K : Type) where
  handle : WindowHandle
  attributes : Attributes K
  arbiter : Arbiter K
  tracker : PhaseTracker
  pressed : ButtonSet

namespace Relay

variable {K : Type}

def attach (handle : WindowHandle) (attributes : Attributes K) (listener : Listener K) : Relay K :=
  ⟨handle, attributes, Arbiter.ofDispatcher (Dispatcher.attach handle.id listener),
    PhaseTracker.start, Mask.empty⟩

/-! ## Parts -/

def dispatcher (r : Relay K) : Dispatcher K :=
  r.arbiter.dispatcher

def arbitrate {α : Type} (m : Act K (Arbiter K) α) : Act K (Relay K) α :=
  Action.within Relay.arbiter (fun r a => { r with arbiter := a }) m

def dispatch {α : Type} (m : Act K (Dispatcher K) α) : Act K (Relay K) α :=
  arbitrate (Arbiter.dispatch m)

def edit {α : Type} (m : Act K (Editor K) α) : Act K (Relay K) (Option α) :=
  dispatch (Dispatcher.edit m)

/-- Ask the text of the window, with an answer for the case that there is none. -/
def query {α : Type} (missing : α) (m : Editing K α) : Act K (Relay K) (Except Fault α) := do
  match ← edit m.run with
  | none => pure (.ok missing)
  | some answer => pure answer

/-- A request of the toolkit on the text of the window.  Without a text it is complained about. -/
def request {α : Type} (name : String) (missing : α) (m : Editing K α) :
    Act K (Relay K) (Except Fault α) := do
  match ← edit m.run with
  | none => do
      Act.warn (.noTextContext name)
      pure (.ok missing)
  | some answer => pure answer

def attributesOf : Act K (Relay K) (Attributes K) := do
  let r ← get
  pure r.attributes

/-! ## Pointer -/

/-- Whether an event reports a double click whose own press never arrived. -/
def losesDoubleClick (r : Relay K) (e : PointerEvent K) : Bool :=
  match e.activation, e.button, e.pressed with
  | .synthetic, some b, true => !r.pressed.has b
  | _, _, _ => false

def hold (e : PointerEvent K) (r : Relay K) : Relay K :=
  match e.button with
  | none => r
  | some b =>
      { r with pressed := if e.pressed then r.pressed.insert b else r.pressed.erase b }

def forgetButtons : Act K (Relay K) Unit :=
  modify fun r => { r with pressed := Mask.empty }

def route (e : PointerEvent K) : Act K (Relay K) Unit := do
  modify (hold e)
  let attributes ← attributesOf
  arbitrate (Arbiter.pointer e attributes.dragGestures)

def pointer (e : PointerEvent K) : Act K (Relay K) Unit := do
  arbitrate Arbiter.settleLifted
  let r ← get
  Act.warnIf (r.losesDoubleClick e) .lostDoubleClick
  match e.primary? with
  | none => pure ()
  | some e => route e

def pointerLeft : Act K (Relay K) Unit := do
  arbitrate Arbiter.settleLifted
  dispatch (Dispatcher.notify .mouseLeave)

/-- Something else took the pointer capture.  The releases of the buttons still held will not
arrive here, so the buttons are forgotten. -/
def captureLost : Act K (Relay K) Unit := do
  forgetButtons
  let _ ← arbitrate (Arbiter.cancel .drag)
  pure ()

/-! ## Scrolling -/

def trackScroll [Scalar K] (input : ScrollInput K) : Act K (Relay K) (Option (ScrollEvent K)) := do
  let r ← get
  let (tracker, event) := r.tracker.track input
  set { r with tracker := tracker }
  pure event

/-- Route a scroll input that is not part of a scroll gesture. -/
def scroll [Scalar K] (input : ScrollInput K) : Act K (Relay K) Unit := do
  arbitrate Arbiter.settleLifted
  match ← trackScroll input with
  | none => pure ()
  | some e => dispatch (Dispatcher.scroll e)

/-! ## Window -/

/-- Losing the keyboard focus aborts every open gesture and forgets the buttons held. -/
def focus : Bool → Act K (Relay K) Unit
  | true => dispatch (Dispatcher.notify (.focus true))
  | false => do
      arbitrate Arbiter.cancelAll
      forgetButtons
      dispatch (Dispatcher.notify (.focus false))

/-- The native window is going away: open gestures are cancelled and the line is cut. -/
def close : Act K (Relay K) Unit := do
  arbitrate Arbiter.cancelAll
  modify fun r => { r with tracker := r.tracker.reset }
  forgetButtons
  dispatch Dispatcher.closed

/-- The relay itself goes away. -/
def drop : Act K (Relay K) Unit := do
  arbitrate Arbiter.cancelAll
  dispatch Dispatcher.drop

/-! ## Calls -/

inductive Call (K : Type)
  | pointer (event : PointerEvent K)
  | pointerLeft
  | scroll (input : ScrollInput K)
  | beginScrollGesture (position : Point K)
  | scrollGestureMotion (precise : Bool) (delta : Delta K) (time : Time)
  | liftScrollGesture
  | startMomentum
  | endScrollGesture
  | cancelScrollGesture
  | flushGestures
  | captureLost
  | hitTest (position : Point K)
  | focus (gained : Bool)
  | closeRequested
  | close
  | resized
  | scaleFactorChanged
  | updateReady
  | hasComposingContext
  | text (call : InputMethod.Call K)
  deriving DecidableEq, Repr

inductive Reply (K : Type)
  | done
  | yesNo (yes : Bool)
  | token (t : Option GestureToken)
  | hit (h : NcHit)
  | text (reply : Option (Except Fault (InputMethod.Reply K)))

def step [Scalar K] : Call K → Act K (Relay K) (Reply K)
  | .pointer e => do
      pointer e
      pure .done
  | .pointerLeft => do
      pointerLeft
      pure .done
  | .scroll input => do
      scroll input
      pure .done
  | .beginScrollGesture p => do
      let t ← arbitrate (Arbiter.beginScroll p)
      pure (.token t)
  | .scrollGestureMotion precise d t => do
      let yes ← arbitrate (Arbiter.scrollMotion precise d t)
      pure (.yesNo yes)
  | .liftScrollGesture => do
      let yes ← arbitrate Arbiter.liftScroll
      pure (.yesNo yes)
  | .startMomentum => do
      let yes ← arbitrate Arbiter.startMomentum
      pure (.yesNo yes)
  | .endScrollGesture => do
      let yes ← arbitrate Arbiter.endScroll
      pure (.yesNo yes)
  | .cancelScrollGesture => do
      let yes ← arbitrate (Arbiter.cancel .scroll)
      pure (.yesNo yes)
  | .flushGestures => do
      arbitrate Arbiter.settleLifted
      pure .done
  | .captureLost => do
      captureLost
      pure .done
  | .hitTest p => do
      let h ← dispatch (Dispatcher.hitTest p)
      pure (.hit h)
  | .focus gained => do
      focus gained
      pure .done
  | .closeRequested => do
      let yes ← dispatch Dispatcher.shouldClose
      pure (.yesNo yes)
  | .close => do
      close
      pure .done
  | .resized => do
      dispatch (Dispatcher.notify .resized)
      pure .done
  | .scaleFactorChanged => do
      dispatch (Dispatcher.notify .scaleFactorChanged)
      pure .done
  | .updateReady => do
      dispatch (Dispatcher.notify .updateReady)
      pure .done
  | .hasComposingContext => do
      let yes ← dispatch Dispatcher.hasEditor
      pure (.yesNo yes)
  | .text c => do
      let reply ← edit (InputMethod.step c)
      pure (.text reply)

end Relay

end WindowRelay

import WindowRelay.Gtk.Event
import WindowRelay.Relay
import WindowRelay.Window.Style

/-!
# GTK windows

Turns the events of one drawing area into calls on its relay, and the relay's answers into what a
signal handler returns.  `Gtk.Call` gathers everything that can happen to a window of this
toolkit, the input method included.

Deltas point the other way here: a positive one scrolls down, which moves the contents up.
-/

namespace WindowRelay
namespace Gtk

structure Window (K : Type) where
  relay : Relay K

/-- A rectangle in whole pixels. -/
structure PixelRect where
  x : Int
  y : Int
  width : Int
  height : Int
  deriving DecidableEq, Repr

def PixelRect.ofRect {K : Type} [Scalar K] (r : Rect K) : PixelRect :=
  ⟨Scalar.nearestInt32 r.origin.x, Scalar.nearestInt32 r.origin.y,
    Scalar.nearestInt32 r.size.width, Scalar.nearestInt32 r.size.height⟩

namespace Window

variable {K : Type}

def attach (handle : WindowHandle) (attributes : Attributes K) (listener : Listener K) : Window K :=
  ⟨Relay.attach handle attributes listener⟩

def properties (w : Window K) : GtkProperties :=
  GtkProperties.ofFlags w.relay.attributes.flags

def cursorName (w : Window K) : String :=
  w.relay.attributes.cursor.cssName

def relaying {α : Type} (m : Act K (Relay K) α) : Act K (Window K) α :=
  Action.within Window.relay (fun _ r => ⟨r⟩) m

/-! ## Events -/

/-- The pointer event of a button event.  The extra reports of double and triple clicks are
synthetic presses. -/
def pointerEvent (e : ButtonEvent K) (b : MouseButton) : PointerEvent K :=
  match e.type with
  | .press => .press e.position b
  | .doublePress | .triplePress => (PointerEvent.press e.position b).synthetic
  | .release => .release e.position b

def button (e : ButtonEvent K) : Act K (Window K) Propagation :=
  match buttonOfNumber? e.button.toNat with
  | none => do
      Act.warnIf (e.button == 0) .missingButtonNumber
      pure .proceed
  | some b => do
      relaying (Relay.pointer (pointerEvent e b))
      pure .stop

variable [Scalar K]

/-- The scroll input of a wheel event; `none` for a smooth one that does not move. -/
def scrollInput? (lineHeight : K) (e : WheelEvent K) : Option (ScrollInput K) :=
  let time := Time.ofMillis e.time.toNat
  match e.direction with
  | .up => some (.step e.position .up time)
  | .down => some (.step e.position .down time)
  | .left => some (.step e.position .left time)
  | .right => some (.step e.position .right time)
  | .smooth =>
      if e.isStop then some (.stop e.position time)
      else if e.delta.isZero then none
      else some (.delta e.position (e.delta.neg.scale lineHeight) time)

def scroll (e : WheelEvent K) : Act K (Window K) Propagation := do
  let w ← get
  match scrollInput? w.relay.attributes.lineHeight e with
  | none => pure .stop
  | some input => do
      relaying (Relay.scroll input)
      pure .stop

def handle : Event K → Act K (Window K) Propagation
  | .button e => button e
  | .motion p _ => do
      relaying (Relay.pointer (.motion p))
      pure .stop
  | .scroll e => scroll e
  | .leaveNotify => do
      relaying Relay.pointerLeft
      pure .stop
  | .focus gained => do
      relaying (Relay.focus gained)
      pure .proceed
  | .grabBroken => do
      relaying Relay.captureLost
      pure .stop
  | .sizeAllocate => do
      relaying (Relay.dispatch (Dispatcher.notify .resized))
      pure .proceed
  | .scaleFactorChanged => do
      relaying (Relay.dispatch (Dispatcher.notify .scaleFactorChanged))
      pure .proceed
  | .frameClockUpdate => do
      relaying (Relay.arbitrate Arbiter.settleLifted)
      relaying (Relay.dispatch (Dispatcher.notify .updateReady))
      pure .proceed
  | .delete => do
      let granted ← relaying (Relay.dispatch Dispatcher.shouldClose)
      pure (if granted then .proceed else .stop)
  | .destroy => do
      relaying Relay.close
      pure .proceed

/-! ## Input method -/

def hasTextContext : Act K (Window K) Bool :=
  relaying (Relay.dispatch Dispatcher.hasEditor)

def commit (text : Text) : Act K (Window K) (Except Fault Unit) :=
  relaying (Relay.request "commit" () (Functor.discard (InputMethod.insertText text none)))

/-- Show what is being composed.  The cursor counts characters; a negative one is at the start. -/
def preeditChanged (text : Text) (cursor : Int) : Act K (Window K) (Except Fault Unit) :=
  relaying (Relay.request "preedit-changed" ()
    (InputMethod.setComposingText text ⟨Text.unitsOfChars cursor.toNat text, 0⟩ none))

def preeditEnd : Act K (Window K) (Except Fault Unit) :=
  relaying (Relay.query () InputMethod.clearComposingText)

/-- The place of the selection on the screen. -/
def selectionRect : Editing K (Option PixelRect) := do
  let selection ← InputMethod.selectedRange
  let (rect, _) ← InputMethod.boundingRect selection
  pure (some (PixelRect.ofRect rect))

def cursorLocation : Act K (Window K) (Except Fault (Option PixelRect)) :=
  relaying (Relay.query none selectionRect)

end Window

/-! ## Calls -/

inductive Call (K : Type)
  | event (e : Event K)
  | commit (text : Text)
  | preeditChanged (text : Text) (cursor : Int)
  | preeditEnd
  | cursorLocation
  | hasTextContext
  | relay (c : Relay.Call K)

inductive Reply (K : Type)
  | done
  | propagation (p : Propagation)
  | yesNo (yes : Bool)
  | location (r : Option PixelRect)
  | relay (r : Relay.Reply K)

namespace Window

variable {K : Type} [Scalar K]

def step : Call K → Act K (Window K) (Except Fault (Reply K))
  | .event e => do
      let p ← handle e
      pure (.ok (.propagation p))
  | .commit text => (Except.map fun _ => .done) <$> commit text
  | .preeditChanged text cursor => (Except.map fun _ => .done) <$> preeditChanged text cursor
  | .preeditEnd => (Except.map fun _ => .done) <$> preeditEnd
  | .cursorLocation => (Except.map .location) <$> cursorLocation
  | .hasTextContext => do
      let yes ← hasTextContext
      pure (.ok (.yesNo yes))
  | .relay c => do
      let r ← relaying (Relay.step c)
      pure (.ok (.relay r))

end Window

end Gtk
end WindowRelay

import WindowRelay.Relay
import WindowRelay.Win32.Message
import WindowRelay.Window.Style

/-!
# Win32 windows

Turns the messages of one window into calls on its relay, and the relay's answers into what the
window procedure returns.  `Win32.Call` gathers everything that can happen to a window of this
toolkit.

Positions arrive in physical pixels, relative to the client area for most messages and relative to
the screen for the wheel and for hit tests; both become points of the content area.  The distance
of a screen position from the client area has to fit a signed 32-bit number, or the message is
abandoned.  A wheel amount that is a whole number of notches is delivered as so many steps, any
other as one delta.
-/

namespace WindowRelay
namespace Win32

structure Window (K : Type) where
  relay : Relay K
  scaleFactor : K
  /-- The top-left corner of the client area in screen pixels. -/
  clientOrigin : Int × Int

namespace Window

variable {K : Type} [Scalar K]

/-! ## State -/

/-- The resolution at which a pixel is a point. -/
def standardDpi : Int :=
  96

omit [Scalar K] in
def relaying {α : Type} (m : Act K (Relay K) α) : Act K (Window K) α :=
  Action.within Window.relay (fun w r => { w with relay := r }) m

def setDpi (dpi : UInt16) : Act K (Window K) Unit :=
  if dpi = 0 then
    Act.warn .zeroDpi
  else
    modify fun w => { w with scaleFactor := Scalar.ofNat dpi.toNat / Scalar.ofInt standardDpi }

omit [Scalar K] in
def setClientOrigin (x y : Int) : Act K (Window K) Unit :=
  modify fun w => { w with clientOrigin := (x, y) }

/-- A window before its resolution is known. -/
def unscaled (handle : WindowHandle) (attributes : Attributes K) (listener : Listener K) :
    Window K :=
  ⟨Relay.attach handle attributes listener, Scalar.one, (0, 0)⟩

/-- A new window, and the effects of setting it up. -/
def attach (handle : WindowHandle) (attributes : Attributes K) (listener : Listener K)
    (dpi : UInt16) : Outcome (Effect K) (Window K) Unit :=
  (setDpi dpi).run (unscaled handle attributes listener)

omit [Scalar K] in
def style (w : Window K) : Win32Style :=
  Win32Style.ofFlags w.relay.attributes.flags

omit [Scalar K] in
def cursorResource (w : Window K) : UInt16 :=
  w.relay.attributes.cursor.win32

omit [Scalar K] in
/-- Whether the window should hold the mouse capture. -/
def wantsCapture (w : Window K) : Bool :=
  !w.relay.pressed.isEmpty

/-! ## Positions -/

/-- Pixels of the client area as a position. -/
def toLogical (w : Window K) (x y : Int) : Point K :=
  ⟨Scalar.ofInt x / w.scaleFactor, Scalar.ofInt y / w.scaleFactor⟩

def clientPoint (w : Window K) (m : Message) : Point K :=
  w.toLogical (loSigned m.lParam32) (hiSigned m.lParam32)

/-- Whether a distance fits a signed 32-bit number. -/
def isPixelDistance (n : Int) : Bool :=
  decide (-(Int.pow 2 31) ≤ n ∧ n < Int.pow 2 31)

def screenPoint (w : Window K) (m : Message) : Except Fault (Point K) :=
  let x := loSigned m.lParam32 - w.clientOrigin.1
  let y := hiSigned m.lParam32 - w.clientOrigin.2
  if isPixelDistance x && isPixelDistance y then .ok (w.toLogical x y) else .error .pixelOverflow

/-! ## Hit tests -/

def clientHit : Int :=
  1

def captionHit : Int :=
  2

/-- Refine the default answer to a hit test: points of the client area that the listener wants to
be dragged by count as the caption. -/
def hitTest (m : Message) (defaultHit : Int) : Act K (Window K) (Except Fault Int) := do
  let w ← get
  if defaultHit = clientHit then
    match w.screenPoint m with
    | .error fault => pure (.error fault)
    | .ok p => do
        match ← relaying (Relay.dispatch (Dispatcher.hitTest p)) with
        | .client => pure (.ok clientHit)
        | .grab => pure (.ok captionHit)
  else
    pure (.ok defaultHit)

/-! ## Mouse -/

/-- The button of a button message.  Only two extended buttons are known. -/
def buttonOf? (b : NativeButton) (m : Message) : Option MouseButton :=
  match b with
  | .left => some .left
  | .right => some .right
  | .middle => some .middle
  | .extended =>
      if hiWord m.wParam32 = 1 then some .back
      else if hiWord m.wParam32 = 2 then some .forward
      else none

/-- The messages of extended buttons are answered differently. -/
def buttonResponse : NativeButton → Response
  | .extended => .handled 1
  | _ => .handled 0

def mouseButton (b : NativeButton) (t : ButtonTransition) (m : Message) :
    Act K (Window K) Response := do
  let w ← get
  match buttonOf? b m with
  | none => do
      Act.warn .unknownExtendedButton
      pure (.handled 0)
  | some button => do
      let p := w.clientPoint m
      relaying (Relay.pointer (if t.isPress then .press p button else .release p button))
      pure (buttonResponse b)

/-! ## Wheel -/

/-- The amount of one notch. -/
def wheelNotch : Int :=
  120

def wheelDirection (vertical : Bool) (amount : Int) : ScrollDirection :=
  match vertical, decide (0 < amount) with
  | true, true => .up
  | true, false => .down
  | false, true => .right
  | false, false => .left

/-- The scroll inputs of a wheel amount. -/
def wheelInputs (w : Window K) (vertical : Bool) (amount : Int) (p : Point K) (t : Time) :
    List (ScrollInput K) :=
  if amount.tmod wheelNotch = 0 then
    List.replicate (amount.tdiv wheelNotch).natAbs (.step p (wheelDirection vertical amount) t)
  else
    let travel : K := Scalar.ofInt amount / Scalar.ofInt wheelNotch * w.relay.attributes.lineHeight
    let d : Delta K := if vertical then ⟨Scalar.zero, travel⟩ else ⟨-travel, Scalar.zero⟩
    [.delta p d t]

def mouseWheel (vertical : Bool) (m : Message) : Act K (Window K) (Except Fault Response) := do
  let w ← get
  match w.screenPoint m with
  | .error fault => pure (.error fault)
  | .ok p => do
      let t := Time.ofMillis m.time.toNat
      relaying (Action.each Relay.scroll (w.wheelInputs vertical (hiSigned m.wParam32) p t))
      pure (.ok (.handled 0))

/-! ## Input method -/

/-- Commit the result, then replace what is left of the composition.  Without either the
composition is cancelled. -/
def applyComposition (c : Composition) : Editing K Unit := do
  let hasResult := c.parts.has .result
  let hasComposing := c.parts.has .composing
  Editing.doWhen (!hasResult && !hasComposing) (InputMethod.setComposingText [] ⟨0, 0⟩ none)
  Editing.doWhen hasResult (Functor.discard (InputMethod.insertText c.result none))
  Editing.doWhen hasComposing
    (InputMethod.setComposingText c.composing ⟨c.cursorUnits, 0⟩ none)

def imeComposition (c : Composition) : Act K (Window K) (Except Fault Response) :=
  relaying (Relay.request "WM_IME_COMPOSITION" .default
    ((fun _ => Response.handled 0) <$> applyComposition c))

/-! ## Messages -/

/-- Do something to the relay and answer zero. -/
def handled (m : Act K (Relay K) Unit) : Act K (Window K) (Except Fault Response) := do
  relaying m
  pure (.ok (.handled 0))

def handleKind (m : Message) : MessageKind → Act K (Window K) (Except Fault Response)
  | .mouseMove => do
      let w ← get
      handled (Relay.pointer (.motion (w.clientPoint m)))
  | .mouseLeave => handled Relay.pointerLeft
  | .button b t => .ok <$> mouseButton b t m
  | .captureChanged => handled Relay.captureLost
  | .mouseWheel => mouseWheel true m
  | .mouseHWheel => mouseWheel false m
  | .setFocus => handled (Relay.focus true)
  | .killFocus => handled (Relay.focus false)
  | .move => do
      setClientOrigin (loSigned m.lParam32) (hiSigned m.lParam32)
      pure (.ok (.handled 0))
  | .ncHitTest => pure (.ok .default)
  | .size => handled (Relay.dispatch (Dispatcher.notify .resized))
  | .dpiChanged => do
      setDpi (loWord m.wParam32)
      handled (Relay.dispatch (Dispatcher.notify .scaleFactorChanged))
  | .paint => do
      relaying (Relay.arbitrate Arbiter.settleLifted)
      relaying (Relay.dispatch (Dispatcher.notify .updateReady))
      pure (.ok .default)
  | .close => do
      let granted ← relaying (Relay.dispatch Dispatcher.shouldClose)
      pure (.ok (if granted then .default else .handled 0))
  | .destroy => handled Relay.close
  | .imeStartComposition => do
      let editsInline ← relaying (Relay.dispatch Dispatcher.hasEditor)
      pure (.ok (if editsInline then .handled 0 else .default))
  | .imeComposition => pure (.ok .default)
  | .imeEndComposition =>
      relaying (Relay.query .default
        ((fun _ => Response.default) <$> InputMethod.clearComposingText))

def handle (m : Message) : Act K (Window K) (Except Fault Response) :=
  match MessageKind.ofNumber? m.number with
  | none => pure (.ok .default)
  | some kind => handleKind m kind

end Window

/-! ## Calls -/

inductive Call (K : Type)
  | message (m : Message)
  | hitTest (m : Message) (defaultHit : Int)
  | setClientOrigin (x y : Int)
  | composition (c : Composition)
  | relay (c : Relay.Call K)

inductive Reply (K : Type)
  | done
  | response (r : Response)
  | hit (value : Int)
  | relay (r : Relay.Reply K)

namespace Window

variable {K : Type} [Scalar K]

def step : Call K → Act K (Window K) (Except Fault (Reply K))
  | .message m => (Except.map .response) <$> handle m
  | .hitTest m defaultHit => (Except.map .hit) <$> hitTest m defaultHit
  | .setClientOrigin x y => do
      setClientOrigin x y
      pure (.ok .done)
  | .composition c => (Except.map .response) <$> imeComposition c
  | .relay c => do
      let r ← relaying (Relay.step c)
      pure (.ok (.relay r))

end Window

end Win32
end WindowRelay

import WindowRelay.AppKit.Event
import WindowRelay.Relay
import WindowRelay.Window.Style

/-!
# AppKit windows

Turns the events and delegate calls of one native window into calls on its relay.  Locations are
flipped against the content height that was last reported.

A wheel event with phases drives a scroll gesture, unless the window wants phased scrolling as a
plain stream (`Attributes.scrollGestures`).
-/

namespace WindowRelay
namespace AppKit

structure Window (K : Type) where
  relay : Relay K
  contentHeight : K

namespace Window

variable {K : Type} [Scalar K]

def attach (handle : WindowHandle) (attributes : Attributes K) (listener : Listener K)
    (contentSize : Size K) : Window K :=
  ⟨Relay.attach handle attributes listener, contentSize.height⟩

omit [Scalar K] in
def style (w : Window K) : AppKitStyle :=
  AppKitStyle.ofFlags w.relay.attributes.flags

omit [Scalar K] in
def cursor (w : Window K) : AppKitCursor :=
  w.relay.attributes.cursor.appKit

/-- A location as a position in the content area. -/
def toContent (w : Window K) (location : Point K) : Point K :=
  ⟨location.x, w.contentHeight - location.y⟩

/-- A rectangle of the content area in window coordinates. -/
def ofContent (w : Window K) (r : Rect K) : Rect K :=
  ⟨⟨r.origin.x, w.contentHeight - r.origin.y - r.size.height⟩, r.size⟩

omit [Scalar K] in
def relaying {α : Type} (m : Act K (Relay K) α) : Act K (Window K) α :=
  Action.within Window.relay (fun w r => { w with relay := r }) m

omit [Scalar K] in
def setContentHeight (height : K) : Act K (Window K) Unit :=
  modify fun w => { w with contentHeight := height }

/-! ## Mouse -/

def mouseButton (e : Event K) (pressed : Bool) : Act K (Window K) Unit := do
  let w ← get
  match e.buttonNumber.toNat?.bind MouseButton.ofIndex? with
  | none => Act.warn .unknownMouseButton
  | some b =>
      let p := w.toContent e.location
      relaying (Relay.pointer (if pressed then .press p b else .release p b))

/-! ## Wheel -/

/-- The delta of a wheel event in points: lines count as high as the attributes say. -/
def scrollDelta (w : Window K) (e : Event K) : Delta K :=
  e.delta.scale (if e.hasPreciseDeltas then Scalar.one else w.relay.attributes.lineHeight)

/-- Deliver a wheel event as part of a plain stream.  The stream stops when the fingers lift, so
the momentum after that is dropped. -/
def scrollFlat (e : Event K) : Act K (Window K) Unit := do
  let w ← get
  let p := w.toContent e.location
  let d := w.scrollDelta e
  if !e.momentum.isEmpty then
    pure ()
  else if e.phase.has .ended || e.phase.has .cancelled then
    relaying (Relay.scroll (.stop p e.time))
  else if d.isZero then
    pure ()
  else
    relaying (Relay.scroll (.delta p d e.time))

omit [Scalar K] in
/-- Do something to the relay's gestures, if a condition on the event holds. -/
def doWhen {α : Type} (condition : Bool) (m : Act K (Arbiter K) α) : Act K (Window K) Unit :=
  if condition then do
    let _ ← relaying (Relay.arbitrate m)
    pure ()
  else
    pure ()

/-- Deliver a wheel event to the scroll gesture: first what the fingers did, then the momentum. -/
def scrollGesture (e : Event K) : Act K (Window K) Unit := do
  let w ← get
  let d := w.scrollDelta e
  let motion := Arbiter.scrollMotion e.hasPreciseDeltas d e.time
  doWhen (e.phase.has .began) (Arbiter.beginScroll (w.toContent e.location))
  doWhen ((e.phase.has .began || e.phase.has .changed) && !d.isZero) motion
  doWhen (e.phase.has .ended) Arbiter.liftScroll
  doWhen (e.phase.has .cancelled) (Arbiter.cancel .scroll)
  doWhen (e.momentum.has .began) Arbiter.startMomentum
  doWhen ((e.momentum.has .began || e.momentum.has .changed) && !d.isZero) motion
  doWhen (e.momentum.has .ended || e.momentum.has .cancelled) Arbiter.endScroll

def scrollWheel (e : Event K) : Act K (Window K) Unit := do
  let w ← get
  if e.isPhased && w.relay.attributes.scrollGestures then scrollGesture e else scrollFlat e

/-! ## Events -/

def handle (e : Event K) : Act K (Window K) Unit :=
  match e.type with
  | .leftMouseDown | .rightMouseDown | .otherMouseDown => mouseButton e true
  | .leftMouseUp | .rightMouseUp | .otherMouseUp => mouseButton e false
  | .mouseMoved | .leftMouseDragged | .rightMouseDragged | .otherMouseDragged => do
      let w ← get
      relaying (Relay.pointer (.motion (w.toContent e.location)))
  | .mouseExited => relaying Relay.pointerLeft
  | .scrollWheel => scrollWheel e

/-! ## Delegate -/

omit [Scalar K] in
def shouldClose : Act K (Window K) Bool :=
  relaying (Relay.dispatch Dispatcher.shouldClose)

omit [Scalar K] in
def willClose : Act K (Window K) Unit :=
  relaying Relay.close

omit [Scalar K] in
def didResize (contentSize : Size K) : Act K (Window K) Unit := do
  setContentHeight contentSize.height
  relaying (Relay.dispatch (Dispatcher.notify .resized))

omit [Scalar K] in
def didChangeBacking : Act K (Window K) Unit :=
  relaying (Relay.dispatch (Dispatcher.notify .scaleFactorChanged))

omit [Scalar K] in
def updateReady : Act K (Window K) Unit :=
  relaying (Relay.dispatch (Dispatcher.notify .updateReady))

def hitTest (location : Point K) : Act K (Window K) NcHit := do
  let w ← get
  relaying (Relay.dispatch (Dispatcher.hitTest (w.toContent location)))

omit [Scalar K] in
def flushGestures : Act K (Window K) Unit :=
  relaying (Relay.arbitrate Arbiter.settleLifted)

end Window

end AppKit
end WindowRelay

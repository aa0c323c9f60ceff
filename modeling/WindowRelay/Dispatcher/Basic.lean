import WindowRelay.Listener
import WindowRelay.Text.InputMethod
import WindowRelay.Window.Identity

/-!
# Dispatcher — the one line to the listener of a window

Every callback to a listener goes through the `Dispatcher` of its window.  The line is cut when the
window closes; after that no callback is made and every question has a fixed answer.

The dispatcher also keeps the `Ledger` of the sessions its listener opened: how many there were,
which numbers them, and how many are still open.
-/

namespace WindowRelay

/-! ## Ledger -/

structure Ledger where
  opened : Nat
  outstanding : Nat
  deriving DecidableEq, Repr

namespace Ledger

def blank : Ledger :=
  ⟨0, 0⟩

def enter (l : Ledger) : Ledger :=
  ⟨l.opened + 1, l.outstanding + 1⟩

def leave (l : Ledger) : Ledger :=
  { l with outstanding := l.outstanding - 1 }

end Ledger

/-- The right to make the calls of one session, and the duty to end it. -/
structure Capability (kind : SessionKind) where
  window : WindowId
  session : Nat
  deriving DecidableEq, Repr

def Capability.describe {kind : SessionKind} (c : Capability kind) : String :=
  "Capability \x7b window: " ++ c.window.describe ++ ", .. \x7d"

/-! ## Dispatcher -/

structure Dispatcher (K : Type) where
  window : WindowId
  listener : Listener K
  attached : Bool
  ledger : Ledger

namespace Dispatcher

variable {K : Type}

def attach (window : WindowId) (listener : Listener K) : Dispatcher K :=
  ⟨window, listener, true, Ledger.blank⟩

def describe (d : Dispatcher K) : String :=
  "Dispatcher \x7b window: " ++ d.window.describe ++
    ", state: " ++ (if d.attached then "\"<attached>\"" else "\"<detached>\"") ++
    ", outstanding: " ++ toString d.ledger.outstanding ++ " \x7d"

/-- Make a callback, if the line is not cut. -/
def notify (c : Callback K) : Act K (Dispatcher K) Unit := do
  let d ← get
  if d.attached then Act.call c else pure ()

theorem run_notify (c : Callback K) (d : Dispatcher K) :
    (notify c).run d = ⟨(), d, if d.attached then [.callback c] else []⟩ := by
  cases hattached : d.attached <;> simp [notify, hattached]

def shouldClose : Act K (Dispatcher K) Bool := do
  notify .shouldClose
  let d ← get
  pure (if d.attached then d.listener.grantsClose else true)

def hitTest (p : Point K) : Act K (Dispatcher K) NcHit := do
  notify (.hitTest p)
  let d ← get
  pure (if d.attached then d.listener.hitTest p else .client)

/-- Tell the listener that its window is gone, and cut the line. -/
def closed : Act K (Dispatcher K) Unit := do
  let d ← get
  if d.attached then do
    modify fun d => { d with attached := false }
    Act.call .closed
    Act.warnIf (d.ledger.outstanding != 0) .closedWithOpenCapabilities
  else
    pure ()

/-- What is said when the line is cut. -/
def lastWords (d : Dispatcher K) : List (Effect K) :=
  .callback .closed ::
    if d.ledger.outstanding != 0 then [.warning .closedWithOpenCapabilities] else []

@[simp]
theorem callbacks_lastWords (d : Dispatcher K) : Effect.callbacks d.lastWords = [.closed] := by
  unfold lastWords
  split <;> rfl

theorem run_closed_attached {d : Dispatcher K} (h : d.attached = true) :
    closed.run d = ⟨(), { d with attached := false }, d.lastWords⟩ := by
  simp [closed, h, lastWords]

theorem run_closed_detached {d : Dispatcher K} (h : d.attached = false) :
    closed.run d = ⟨(), d, []⟩ := by
  simp [closed, h]

/-- Cut the line without a word. -/
def drop : Act K (Dispatcher K) Unit :=
  modify fun d => { d with attached := false }

def scroll (e : ScrollEvent K) : Act K (Dispatcher K) Unit :=
  match e.kind with
  | .discrete => notify (.scrollDiscrete e.position e.delta)
  | .precise => notify (.scrollContinuous e.position e.delta e.timestamp)
  | .momentumStop => notify (.scrollStop e.timestamp)

/-- Run an operation on the listener's editor, if there is one and the line is not cut. -/
def edit {α : Type} (m : Act K (Editor K) α) : Act K (Dispatcher K) (Option α) :=
  Action.withinSome
    (fun d => if d.attached then d.listener.editor else none)
    (fun d e => { d with listener := { d.listener with editor := some e } })
    m

theorem run_edit_none {α : Type} {m : Act K (Editor K) α} {d : Dispatcher K}
    (h : (if d.attached then d.listener.editor else none) = none) :
    (edit m).run d = ⟨none, d, []⟩ :=
  Action.run_withinSome_none h

theorem run_edit_some {α : Type} {m : Act K (Editor K) α} {d : Dispatcher K} {e : Editor K}
    (h : (if d.attached then d.listener.editor else none) = some e) :
    (edit m).run d =
      ⟨some (m.run e).value,
        { d with listener := { d.listener with editor := some (m.run e).state } },
        (m.run e).effects⟩ :=
  Action.run_withinSome_some h

def hasEditor : Act K (Dispatcher K) Bool := do
  let d ← get
  pure (d.attached && d.listener.editor.isSome)

/-! ## Opening sessions -/

/-- Ask the listener for a session: its number is the count of the sessions before it. -/
def openSession (kind : SessionKind) (request : Nat → Callback K) :
    Act K (Dispatcher K) (Option (Capability kind)) := do
  let d ← get
  if d.attached then do
    Act.call (request d.ledger.opened)
    set { d with ledger := d.ledger.enter }
    pure (some ⟨d.window, d.ledger.opened⟩)
  else
    pure none

def beginDrag (p : Point K) (b : MouseButton) :
    Act K (Dispatcher K) (Option (Capability .drag)) :=
  openSession .drag fun n => .beginDrag n p b

def beginScroll (p : Point K) : Act K (Dispatcher K) (Option (Capability .scroll)) :=
  openSession .scroll fun n => .beginScroll n p

end Dispatcher

/-! ## Using and ending sessions -/

namespace Capability

variable {K : Type}

/-- Calls on an open drag go to its session, whether or not the window is closed. -/
def drag (c : Capability .drag) (call : DragCall K) : Act K (Dispatcher K) Unit :=
  Act.call (.drag c.session call)

def scroll (c : Capability .scroll) (call : ScrollCall K) : Act K (Dispatcher K) Unit :=
  Act.call (.scroll c.session call)

/-- The terminal callback of a session of either kind. -/
def terminal : {kind : SessionKind} → Capability kind → Ending → Callback K
  | .drag, c, how => .drag c.session (.ended how)
  | .scroll, c, how => .scroll c.session (.ended how)

/-- End a session.  The capability is used up. -/
def finish {kind : SessionKind} (c : Capability kind) (how : Ending) :
    Act K (Dispatcher K) Unit := do
  Act.call (c.terminal how)
  modify fun d => { d with ledger := d.ledger.leave }

/-- Give a capability up without ending its session, which counts as a cancel. -/
def drop {kind : SessionKind} (c : Capability kind) : Act K (Dispatcher K) Unit := do
  Act.warn .capabilityDropped
  c.finish .cancel

end Capability

end WindowRelay

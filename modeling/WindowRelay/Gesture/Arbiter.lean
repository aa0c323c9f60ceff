import WindowRelay.Gesture.Slot

/-!
# Arbiter — who owns the pointer

The listener of a window owns its input at all times.  While a gesture is open its session is a
transient owner beside it: a drag takes the pointer motion for itself and hears of every button, a
scroll gesture takes the phased scrolling.  There is at most one open gesture of each kind, and a
request to start a second one changes nothing.

* A drag opens with the first button pressed and is released with the last one let go.
* A scroll gesture is tracked until the fingers lift.  Then it waits for momentum; anything else
  that happens settles it first, that is, ends and releases it.
-/

namespace WindowRelay

structure Arbiter (K : Type) where
  dispatcher : Dispatcher K
  lastToken : Nat
  drag : Slot DragSession
  scroll : Slot ScrollSession

namespace Arbiter

variable {K : Type}

def ofDispatcher (d : Dispatcher K) : Arbiter K :=
  ⟨d, 0, Slot.vacant, Slot.vacant⟩

/-! ## Views -/

def state (a : Arbiter K) : SessionKind → GestureState
  | .drag => a.drag.state
  | .scroll => a.scroll.state

def owner (a : Arbiter K) : SessionKind → CaptureOwner
  | .drag =>
      match a.drag.session with
      | none => .primary
      | some s => .transient s.token
  | .scroll =>
      match a.scroll.session with
      | none => .primary
      | some s => .transient s.token

def isActive (a : Arbiter K) (kind : SessionKind) : Bool :=
  decide (a.owner kind ≠ .primary)

def stage? (a : Arbiter K) : Option ScrollStage :=
  a.scroll.session.map (·.stage)

def describe (a : Arbiter K) : String :=
  let stage :=
    match a.stage? with
    | none => "None"
    | some s => "Some(" ++ Labelled.label s ++ ")"
  "GestureArbiter \x7b drag: " ++ a.drag.state.describe ++
    ", scroll: " ++ a.scroll.state.describe ++
    ", scroll_stage: " ++ stage ++ " \x7d"

/-! ## Ending gestures -/

def dispatch {α : Type} (m : Act K (Dispatcher K) α) : Act K (Arbiter K) α :=
  Action.within Arbiter.dispatcher (fun a d => { a with dispatcher := d }) m

def nextToken : Act K (Arbiter K) GestureToken := do
  let a ← get
  set { a with lastToken := a.lastToken + 1 }
  pure ⟨a.lastToken + 1⟩

def finishDrag (how : Ending) : Act K (Arbiter K) Bool := do
  let a ← get
  match a.drag.session with
  | none => pure false
  | some s => do
      set { a with drag := Slot.ended how s.token }
      dispatch (s.capability.finish how)
      pure true

def finishScroll (how : Ending) : Act K (Arbiter K) Bool := do
  let a ← get
  match a.scroll.session with
  | none => pure false
  | some s => do
      set { a with scroll := Slot.ended how s.token }
      dispatch (s.finish how)
      pure true

/-- Abort the open gesture of a kind.  Answers whether there was one. -/
def cancel : SessionKind → Act K (Arbiter K) Bool
  | .drag => finishDrag .cancel
  | .scroll => finishScroll .cancel

def cancelAll : Act K (Arbiter K) Unit := do
  let _ ← cancel .drag
  let _ ← cancel .scroll
  pure ()

/-- Release a scroll gesture that waits for momentum. -/
def settleLifted : Act K (Arbiter K) Unit := do
  let a ← get
  if a.stage? = some .lifted then do
    let _ ← finishScroll .release
    pure ()
  else
    pure ()

/-! ## Pointer events -/

def press (p : Point K) (b : MouseButton) (opensDrag : Bool) : Act K (Arbiter K) Unit := do
  let a ← get
  match a.drag.session with
  | some s =>
      if s.buttons.has b then
        pure ()
      else do
        let buttons := s.buttons.insert b
        set { a with drag := { a.drag with session := some { s with buttons := buttons } } }
        dispatch (s.capability.drag (.mouseDown p b))
  | none =>
      if opensDrag then do
        match ← dispatch (Dispatcher.beginDrag p b) with
        | none => pure ()
        | some c => do
            let token ← nextToken
            modify fun a => { a with drag := Slot.install ⟨token, c, Mask.single b⟩ token }
      else
        pure ()

def letGo (p : Point K) (b : MouseButton) : Act K (Arbiter K) Unit := do
  let a ← get
  match a.drag.session with
  | none => pure ()
  | some s =>
      if s.buttons.has b then do
        let rest := s.buttons.erase b
        set { a with drag := { a.drag with session := some { s with buttons := rest } } }
        dispatch (s.capability.drag (.mouseUp p b))
        if rest.isEmpty then do
          let _ ← finishDrag .release
          pure ()
        else
          pure ()
      else
        pure ()

def motion (p : Point K) : Act K (Arbiter K) Unit := do
  let a ← get
  match a.drag.session with
  | some s => dispatch (s.capability.drag (.motion p))
  | none => dispatch (Dispatcher.notify (.mouseMotion p))

/-- Route a pointer event.  Button events go to the listener first, and to the drag after that. -/
def pointer (e : PointerEvent K) (dragGestures : Bool) : Act K (Arbiter K) Unit :=
  match e.button with
  | none => motion e.position
  | some b => do
      dispatch (Dispatcher.notify (.mouseButton e.position e.pressed b))
      if e.pressed then press e.position b dragGestures else letGo e.position b

/-! ## Scroll gestures -/

/-- Open a scroll gesture, unless there is one. -/
def openScroll (p : Point K) : Act K (Arbiter K) (Option GestureToken) := do
  let a ← get
  match a.scroll.session with
  | some _ => pure none
  | none => do
      match ← dispatch (Dispatcher.beginScroll p) with
      | none => pure none
      | some c => do
          let token ← nextToken
          modify fun a => { a with scroll := Slot.install ⟨token, c, .tracking, none⟩ token }
          pure (some token)

def beginScroll (p : Point K) : Act K (Arbiter K) (Option GestureToken) := do
  settleLifted
  openScroll p

/-- Hand motion to the open scroll gesture.  Answers whether there was one. -/
def moveScroll [Scalar K] (precise : Bool) (d : Delta K) (t : Time) : Act K (Arbiter K) Bool := do
  let a ← get
  match a.scroll.session with
  | none => pure false
  | some s => do
      set { a with scroll := { a.scroll with session := some (s.moved t) } }
      dispatch (s.capability.scroll (.motion precise d (s.velocity d t)))
      pure true

/-- Motion goes to the open scroll gesture, but a lifted one is settled first. -/
def scrollMotion [Scalar K] (precise : Bool) (d : Delta K) (t : Time) : Act K (Arbiter K) Bool := do
  settleLifted
  moveScroll precise d t

/-- Move the open scroll gesture from one stage to another, if that is where it stands. -/
def advance (source target : ScrollStage) : Act K (Arbiter K) (Option ScrollSession) := do
  let a ← get
  match a.scroll.session with
  | none => pure none
  | some s =>
      if s.stage = source then do
        set { a with scroll := { a.scroll with session := some { s with stage := target } } }
        pure (some s)
      else
        pure none

def liftScroll : Act K (Arbiter K) Bool := do
  let s ← advance .tracking .lifted
  pure s.isSome

def startMomentum : Act K (Arbiter K) Bool := do
  match ← advance .lifted .momentum with
  | none => pure false
  | some s => do
      dispatch (s.capability.scroll .startMomentum)
      pure true

def endScroll : Act K (Arbiter K) Bool :=
  finishScroll .release

/-! ## Calls -/

inductive Call (K : Type)
  | pointer (event : PointerEvent K) (dragGestures : Bool)
  | beginScroll (position : Point K)
  | scrollMotion (precise : Bool) (delta : Delta K) (time : Time)
  | liftScroll
  | startMomentum
  | endScroll
  | settleLifted
  | cancel (kind : SessionKind)
  | cancelAll
  | closed
  deriving DecidableEq, Repr

inductive Reply
  | done
  | moved (yes : Bool)
  | token (t : Option GestureToken)
  deriving DecidableEq, Repr

def step [Scalar K] : Call K → Act K (Arbiter K) Reply
  | .pointer e drags => do
      pointer e drags
      pure .done
  | .beginScroll p => do
      let t ← beginScroll p
      pure (.token t)
  | .scrollMotion precise d t => do
      let yes ← scrollMotion precise d t
      pure (.moved yes)
  | .liftScroll => do
      let yes ← liftScroll
      pure (.moved yes)
  | .startMomentum => do
      let yes ← startMomentum
      pure (.moved yes)
  | .endScroll => do
      let yes ← endScroll
      pure (.moved yes)
  | .settleLifted => do
      settleLifted
      pure .done
  | .cancel kind => do
      let yes ← cancel kind
      pure (.moved yes)
  | .cancelAll => do
      cancelAll
      pure .done
  | .closed => do
      dispatch Dispatcher.closed
      pure .done

def giveUp {kind : SessionKind} : Option (Capability kind) → Act K (Arbiter K) Unit
  | none => pure ()
  | some c => dispatch c.drop

/-- Give up what is open without ending it, the drag first. -/
def drop : Act K (Arbiter K) Unit := do
  let a ← get
  set { a with drag := Slot.vacant, scroll := Slot.vacant }
  giveUp (a.drag.session.map (·.capability))
  giveUp (a.scroll.session.map (·.capability))
  dispatch Dispatcher.drop

end Arbiter

end WindowRelay

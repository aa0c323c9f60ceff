import WindowRelay.Dispatcher.Basic

/-!
# Gesture slots

A window has one slot for a drag and one for a scroll gesture.  A slot holds the open session, if
there is one, and the lifecycle of the latest gesture of its kind.
-/

namespace WindowRelay

/-- Identifies one gesture of a window. -/
structure GestureToken where
  number : Nat
  deriving DecidableEq, Repr

def GestureToken.describe (t : GestureToken) : String :=
  "GestureToken(" ++ toString t.number ++ ")"

/-- Who receives the events of a gesture kind: the window's listener, or one gesture. -/
inductive CaptureOwner
  | primary
  | transient (token : GestureToken)
  deriving DecidableEq, Repr

inductive GestureState
  | idle
  | active (token : GestureToken)
  | released (token : GestureToken)
  | cancelled (token : GestureToken)
  deriving DecidableEq, Repr

namespace GestureState

def ended : Ending → GestureToken → GestureState
  | .release, t => .released t
  | .cancel, t => .cancelled t

def label : GestureState → String
  | .idle => "Idle"
  | .active _ => "Active"
  | .released _ => "Released"
  | .cancelled _ => "Cancelled"

/-- The gesture that a state is about. -/
def token? : GestureState → Option GestureToken
  | .idle => none
  | .active t => some t
  | .released t => some t
  | .cancelled t => some t

def describe (s : GestureState) : String :=
  match s.token? with
  | none => s.label
  | some t => s.label ++ "(" ++ t.describe ++ ")"

@[simp]
theorem token?_ended (how : Ending) (t : GestureToken) : (ended how t).token? = some t := by
  cases how <;> rfl

@[simp]
theorem ended_ne_active (how : Ending) (t t' : GestureToken) : ended how t ≠ .active t' := by
  cases how <;> exact GestureState.noConfusion

@[simp]
theorem ended_inj {how how' : Ending} {t t' : GestureToken} :
    ended how t = ended how' t' ↔ how = how' ∧ t = t' := by
  cases how <;> cases how' <;> simp [ended]

end GestureState

/-! ## Sessions -/

structure DragSession where
  token : GestureToken
  capability : Capability .drag
  /-- The buttons held down during the drag. -/
  buttons : ButtonSet
  deriving DecidableEq, Repr

/-- Where a scroll gesture stands: fingers on the device, fingers lifted and momentum perhaps to
follow, or momentum. -/
inductive ScrollStage
  | tracking
  | lifted
  | momentum
  deriving DecidableEq, Repr

instance : Labelled ScrollStage where
  all := [.tracking, .lifted, .momentum]
  label
    | .tracking => "Tracking"
    | .lifted => "Lifted"
    | .momentum => "Momentum"

structure ScrollSession where
  token : GestureToken
  capability : Capability .scroll
  stage : ScrollStage
  /-- The latest time of the motions so far. -/
  lastMotion : Option Time
  deriving DecidableEq, Repr

namespace ScrollSession

/-- Points per second since the latest motion, and zero when no time has passed since. -/
def velocity {K : Type} [Scalar K] (s : ScrollSession) (d : Delta K) (t : Time) : Delta K :=
  match s.lastMotion with
  | none => Point.zero
  | some last => if last < t then d.divide (t - last).toSeconds else Point.zero

def moved (s : ScrollSession) (t : Time) : ScrollSession :=
  { s with lastMotion := some (match s.lastMotion with | none => t | some last => max last t) }

/-- End the session.  It hears that no motion follows before it is released. -/
def finish {K : Type} (s : ScrollSession) : Ending → Act K (Dispatcher K) Unit
  | .release => do
      s.capability.scroll .finish
      s.capability.finish .release
  | .cancel => s.capability.finish .cancel

end ScrollSession

/-! ## Slots -/

structure Slot (σ : Type) where
  session : Option σ
  state : GestureState
  deriving DecidableEq, Repr

namespace Slot

variable {σ : Type}

def vacant : Slot σ :=
  ⟨none, .idle⟩

def install (session : σ) (token : GestureToken) : Slot σ :=
  ⟨some session, .active token⟩

def ended (how : Ending) (token : GestureToken) : Slot σ :=
  ⟨none, .ended how token⟩

end Slot

end WindowRelay

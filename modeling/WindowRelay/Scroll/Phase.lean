import WindowRelay.Action
import WindowRelay.Scroll.Event

/-!
# Scroll phases

`PhaseTracker` classifies every scroll input of one window and follows the stream it belongs to.

| before       | step         | delta        | stop          |
|--------------|--------------|--------------|---------------|
| `idle`       | `discrete`   | `continuous` | dropped       |
| `continuous` | `continuous` | `continuous` | `momentumEnd` |

The two other phases last until the next input, which finds the tracker idle.

The times it hands on never decrease: a time earlier than the last one seen is replaced by that
one.  Dropped inputs count as seen, and a reset forgets no time.
-/

namespace WindowRelay

inductive ScrollPhase
  | idle
  | discrete
  | continuous
  | momentumEnd
  deriving DecidableEq, Repr, Inhabited

instance : Labelled ScrollPhase where
  all := [.idle, .discrete, .continuous, .momentumEnd]
  label
    | .idle => "Idle"
    | .discrete => "Discrete"
    | .continuous => "Continuous"
    | .momentumEnd => "MomentumEnd"

/-- `discrete` and `momentumEnd` last until the next input only. -/
def ScrollPhase.settled : ScrollPhase → ScrollPhase
  | .continuous => .continuous
  | _ => .idle

structure PhaseTracker where
  phase : ScrollPhase
  last : Option Time
  deriving DecidableEq, Repr

namespace PhaseTracker

def start : PhaseTracker :=
  ⟨.idle, none⟩

def reset (t : PhaseTracker) : PhaseTracker :=
  { t with phase := .idle }

/-- The later of a time and the latest one seen. -/
def clamp (t : PhaseTracker) (time : Time) : Time :=
  match t.last with
  | none => time
  | some last => max last time

/-- The phase after an input, and the event to forward; `none` for a stop outside a stream. -/
def classify {K : Type} [Scalar K] (phase : ScrollPhase) (input : ScrollInput K) (time : Time) :
    ScrollPhase × Option (ScrollEvent K) :=
  let kind := ScrollClass.classify input.hasDelta input.isStop
  if input.isStop then
    match phase.settled with
    | .continuous => (.momentumEnd, some ⟨input.position, Point.zero, kind, time⟩)
    | p => (p, none)
  else
    match input.amount, phase.settled with
    | .step d, .continuous =>
        (.continuous, some ⟨input.position, d.unitDelta, kind, time⟩)
    | .step d, _ =>
        (.discrete, some ⟨input.position, d.unitDelta, kind, time⟩)
    | .delta d, _ =>
        (.continuous, some ⟨input.position, d, kind, time⟩)

def track {K : Type} [Scalar K] (t : PhaseTracker) (input : ScrollInput K) :
    PhaseTracker × Option (ScrollEvent K) :=
  let time := t.clamp input.timestamp
  let (phase, event) := classify t.phase input time
  (⟨phase, some time⟩, event)

/-! ## Calls -/

inductive Call (K : Type)
  | track (input : ScrollInput K)
  | reset
  deriving DecidableEq, Repr

def step {K ε : Type} [Scalar K] :
    Call K → Action ε PhaseTracker (Option (ScrollEvent K))
  | .track input => modifyGet fun t => (t.track input).swap
  | .reset => do
      modify reset
      pure none

end PhaseTracker

end WindowRelay

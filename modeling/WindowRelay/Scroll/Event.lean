import WindowRelay.Label
import WindowRelay.Scalar
import WindowRelay.Time

/-!
# Scroll events

A toolkit reports a step in a direction or a delta in points, perhaps marked as the end of the
stream (`ScrollInput`).  The relay delivers it with a class (`ScrollEvent`).  A stop outranks the
amount it arrived with.
-/

namespace WindowRelay

inductive ScrollDirection
  | left
  | right
  | up
  | down
  deriving DecidableEq, Repr, Inhabited

instance : Labelled ScrollDirection where
  all := [.left, .right, .up, .down]
  label
    | .left => "Left"
    | .right => "Right"
    | .up => "Up"
    | .down => "Down"

/-- What one step moves the contents by: a step up reveals what is above, so it moves them
down. -/
def ScrollDirection.unitDelta {K : Type} [Scalar K] : ScrollDirection → Delta K
  | .left => ⟨Scalar.ofInt 1, Scalar.ofInt 0⟩
  | .right => ⟨Scalar.ofInt (-1), Scalar.ofInt 0⟩
  | .up => ⟨Scalar.ofInt 0, Scalar.ofInt 1⟩
  | .down => ⟨Scalar.ofInt 0, Scalar.ofInt (-1)⟩

inductive ScrollAmount (K : Type)
  | step (direction : ScrollDirection)
  | delta (amount : Delta K)
  deriving DecidableEq, Repr

structure ScrollInput (K : Type) where
  position : Point K
  amount : ScrollAmount K
  isStop : Bool
  timestamp : Time
  deriving DecidableEq, Repr

namespace ScrollInput

variable {K : Type}

def step (p : Point K) (d : ScrollDirection) (t : Time) : ScrollInput K :=
  ⟨p, .step d, false, t⟩

def delta (p : Point K) (d : Delta K) (t : Time) : ScrollInput K :=
  ⟨p, .delta d, false, t⟩

def stop [Scalar K] (p : Point K) (t : Time) : ScrollInput K :=
  ⟨p, .delta Point.zero, true, t⟩

def hasDelta (i : ScrollInput K) : Bool :=
  match i.amount with
  | .step _ => false
  | .delta _ => true

end ScrollInput

inductive ScrollClass
  | discrete
  | precise
  | momentumStop
  deriving DecidableEq, Repr, Inhabited

instance : Labelled ScrollClass where
  all := [.discrete, .precise, .momentumStop]
  label
    | .discrete => "Discrete"
    | .precise => "Precise"
    | .momentumStop => "MomentumStop"

def ScrollClass.classify (hasDelta isStop : Bool) : ScrollClass :=
  match isStop, hasDelta with
  | true, _ => .momentumStop
  | false, true => .precise
  | false, false => .discrete

/-- A classified scroll event.  The delta of a stop is zero. -/
structure ScrollEvent (K : Type) where
  position : Point K
  delta : Delta K
  kind : ScrollClass
  timestamp : Time
  deriving DecidableEq, Repr

end WindowRelay

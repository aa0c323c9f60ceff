import WindowRelay.Action
import WindowRelay.Label
import WindowRelay.Warning

/-!
# Invocations

An `Invocation` is a deferred callback.  It is settled once: it is fired when its timer runs out,
or cancelled.  Dropping it unsettled counts as a cancel and is complained about.  A bare function
is an invocation that does not hear of a cancel.
-/

namespace WindowRelay

structure Invocation (ν : Type) where
  label : ν
  hearsCancel : Bool
  deriving DecidableEq, Repr

inductive Settlement
  | fired
  | cancelled
  deriving DecidableEq, Repr

instance : Labelled Settlement where
  all := [.fired, .cancelled]
  label
    | .fired => "fire"
    | .cancelled => "cancel"

inductive TimerEffect (ν : Type)
  | settled (how : Settlement) (invocation : Invocation ν)
  | warning (w : Warning)
  deriving DecidableEq, Repr

namespace TimerEffect

variable {ν : Type}

def settled? : TimerEffect ν → Option (Settlement × Invocation ν)
  | .settled how i => some (how, i)
  | .warning _ => none

def warning? : TimerEffect ν → Option Warning
  | .settled _ _ => none
  | .warning w => some w

/-- Whether the invocation itself gets to know of an effect. -/
def heard? : TimerEffect ν → Option (Settlement × ν)
  | .settled .fired i => some (.fired, i.label)
  | .settled .cancelled i => if i.hearsCancel then some (.cancelled, i.label) else none
  | .warning _ => none

end TimerEffect

namespace Invocation

variable {ν σ : Type}

def describe (_ : Invocation ν) : String :=
  "InvocationCapability \x7b .. \x7d"

def fire (i : Invocation ν) : Action (TimerEffect ν) σ Unit :=
  Action.emit (.settled .fired i)

def cancel (i : Invocation ν) : Action (TimerEffect ν) σ Unit :=
  Action.emit (.settled .cancelled i)

def drop (i : Invocation ν) : Action (TimerEffect ν) σ Unit := do
  Action.emit (.warning .invocationDropped)
  i.cancel

/-- What is done with an invocation that was taken over. -/
inductive Disposal
  | fire
  | cancel
  | drop
  deriving DecidableEq, Repr

instance : Labelled Disposal where
  all := [.fire, .cancel, .drop]
  label
    | .fire => "fire"
    | .cancel => "cancel"
    | .drop => "drop"

def dispose : Disposal → Invocation ν → Action (TimerEffect ν) σ Unit
  | .fire, i => i.fire
  | .cancel, i => i.cancel
  | .drop, i => i.drop

end Invocation

end WindowRelay

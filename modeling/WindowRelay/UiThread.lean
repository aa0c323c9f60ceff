import WindowRelay.Action

/-!
# The UI thread

Windows may only be set up on a thread that was marked as a UI thread.  `UiThread.bootstrap` marks
the thread, as often as one likes; `UiThread.current` asks for the mark.
-/

namespace WindowRelay

/-- The operation needs the UI thread. -/
inductive BadThread
  | mk
  deriving DecidableEq, Repr

namespace BadThread

def describe (_ : BadThread) : String :=
  "BadThread"

def message (_ : BadThread) : String :=
  "the operation is only allowed on the UI thread"

end BadThread

/-- Whether a thread was marked. -/
structure ThreadMark where
  isUi : Bool
  deriving DecidableEq, Repr

namespace UiThread

def fresh : ThreadMark :=
  ⟨false⟩

inductive Call
  | bootstrap
  | current
  deriving DecidableEq, Repr

def step {ε : Type} : Call → Action ε ThreadMark (Except BadThread Unit)
  | .bootstrap => do
      set (ThreadMark.mk true)
      pure (.ok ())
  | .current => do
      let mark ← get
      pure (if mark.isUi then .ok () else .error .mk)

end UiThread

end WindowRelay

import WindowRelay.Callback
import WindowRelay.Text.Editor
import WindowRelay.Window.Cursor

/-!
# Listeners

A `Listener` holds what the relay may ask of the receiver of a window's callbacks: whether a close
request is granted, what a point of the window is, and the editor that its text input works on.
A listener need not implement every callback; `Listener.heard` keeps those it does.
-/

namespace WindowRelay

/-- How much a listener implements: nothing, the callbacks of the window, or these and the
callbacks of its sessions. -/
inductive Hearing
  | nothing
  | window
  | everything
  deriving DecidableEq, Repr

def Hearing.hears {K : Type} (h : Hearing) (c : Callback K) : Bool :=
  match h with
  | .nothing => false
  | .window => c.session?.isNone
  | .everything => true

structure Listener (K : Type) where
  grantsClose : Bool
  hitTest : Point K → NcHit
  editor : Option (Editor K)
  hearing : Hearing

namespace Listener

variable {K : Type}

/-- A listener that implements nothing: it lets the window close, and every point belongs to the
contents. -/
def deaf : Listener K :=
  ⟨true, fun _ => .client, none, .nothing⟩

def heard (l : Listener K) (cs : List (Callback K)) : List (Callback K) :=
  cs.filter l.hearing.hears

end Listener

end WindowRelay

import WindowRelay.Action
import WindowRelay.Scalar
import WindowRelay.Warning
import WindowRelay.Window.Cursor
import WindowRelay.Window.Flags

/-!
# Window attributes

What the relay is told about a window when it is set up.  `Attributes.Setting` is one change to
the standard attributes; a line height that is not a positive number is refused with a warning.
-/

namespace WindowRelay

structure Attributes (K : Type) where
  flags : WindowFlags
  cursor : CursorShape
  /-- The number of points that one line of a line-based wheel scrolls by. -/
  lineHeight : K
  /-- Whether a button press opens a drag session. -/
  dragGestures : Bool
  /-- Whether phased scrolling opens scroll sessions. -/
  scrollGestures : Bool
  deriving DecidableEq, Repr

namespace Attributes

variable {K : Type} [Scalar K]

def standard : Attributes K :=
  ⟨WindowFlags.standard, .default, Scalar.ofInt 40, true, true⟩

inductive Setting (K : Type)
  | flags (f : WindowFlags)
  | cursor (c : CursorShape)
  | lineHeight (h : K)
  | dragGestures (on : Bool)
  | scrollGestures (on : Bool)
  deriving DecidableEq, Repr

def apply : Setting K → Action Warning (Attributes K) Unit
  | .flags f => modify fun a => { a with flags := f }
  | .cursor c => modify fun a => { a with cursor := c }
  | .lineHeight h =>
      if Scalar.isProper h then
        modify fun a => { a with lineHeight := h }
      else
        Action.emit .invalidLineHeight
  | .dragGestures on => modify fun a => { a with dragGestures := on }
  | .scrollGestures on => modify fun a => { a with scrollGestures := on }

/-- The standard attributes after a list of settings, and the warnings on the way. -/
def ofSettings (settings : List (Setting K)) : Attributes K × List Warning :=
  let outcome := (Action.each apply settings).run standard
  (outcome.state, outcome.effects)

end Attributes

end WindowRelay

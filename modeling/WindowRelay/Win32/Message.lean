import WindowRelay.Mask
import WindowRelay.Text.Units

/-!
# Win32 messages

A window message is a number with two parameters of machine size.  Everything of interest here is
in their low 32 bits: positions and wheel amounts are signed 16-bit halves.

`MessageKind.ofNumber?` names the messages that the relay handles.  `Composition` is what an input
method message carries, as read by the host.
-/

namespace WindowRelay
namespace Win32

/-! ## Words -/

def loWord (x : UInt32) : UInt16 :=
  x.toUInt16

def hiWord (x : UInt32) : UInt16 :=
  (x >>> 16).toUInt16

def loSigned (x : UInt32) : Int :=
  (loWord x).toInt16.toInt

def hiSigned (x : UInt32) : Int :=
  (hiWord x).toInt16.toInt

/-- Two 16-bit halves as one word. -/
def packWord (lo hi : UInt16) : UInt32 :=
  (hi.toUInt32 <<< 16) ||| lo.toUInt32

def packWParam (lo hi : UInt16) : UInt64 :=
  (packWord lo hi).toUInt64

/-- The packed word with its sign extended. -/
def packLParam (lo hi : UInt16) : Int64 :=
  (packWord lo hi).toInt32.toInt64

/-! ## Messages -/

structure Message where
  number : UInt32
  wParam : UInt64
  lParam : Int64
  /-- Milliseconds. -/
  time : UInt32
  deriving DecidableEq, Repr

namespace Message

def wParam32 (m : Message) : UInt32 :=
  m.wParam.toUInt32

def lParam32 (m : Message) : UInt32 :=
  m.lParam.toUInt64.toUInt32

/-- A message with a position in physical pixels. -/
def mouse (number : UInt32) (x y : Int16) : Message :=
  ⟨number, 0, packLParam x.toUInt16 y.toUInt16, 0⟩

end Message

inductive NativeButton
  | left
  | right
  | middle
  /-- The high half of the first parameter tells which. -/
  | extended
  deriving DecidableEq, Repr

inductive ButtonTransition
  | down
  | up
  /-- Sent in place of the second press of a double click. -/
  | doubleClick
  deriving DecidableEq, Repr

def ButtonTransition.isPress : ButtonTransition → Bool
  | .down | .doubleClick => true
  | .up => false

inductive MessageKind
  | destroy
  | move
  | size
  | setFocus
  | killFocus
  | paint
  | close
  | ncHitTest
  | imeStartComposition
  | imeEndComposition
  | imeComposition
  | mouseMove
  | button (b : NativeButton) (t : ButtonTransition)
  | mouseWheel
  | mouseHWheel
  | captureChanged
  | mouseLeave
  | dpiChanged
  deriving DecidableEq, Repr

namespace MessageKind

def mouseMoveNumber : UInt32 :=
  0x0200

def ofNumber? (n : UInt32) : Option MessageKind :=
  match n.toNat with
  | 0x0002 => some .destroy
  | 0x0003 => some .move
  | 0x0005 => some .size
  | 0x0007 => some .setFocus
  | 0x0008 => some .killFocus
  | 0x000F => some .paint
  | 0x0010 => some .close
  | 0x0084 => some .ncHitTest
  | 0x010D => some .imeStartComposition
  | 0x010E => some .imeEndComposition
  | 0x010F => some .imeComposition
  | 0x0200 => some .mouseMove
  | 0x0201 => some (.button .left .down)
  | 0x0202 => some (.button .left .up)
  | 0x0203 => some (.button .left .doubleClick)
  | 0x0204 => some (.button .right .down)
  | 0x0205 => some (.button .right .up)
  | 0x0206 => some (.button .right .doubleClick)
  | 0x0207 => some (.button .middle .down)
  | 0x0208 => some (.button .middle .up)
  | 0x0209 => some (.button .middle .doubleClick)
  | 0x020A => some .mouseWheel
  | 0x020B => some (.button .extended .down)
  | 0x020C => some (.button .extended .up)
  | 0x020D => some (.button .extended .doubleClick)
  | 0x020E => some .mouseHWheel
  | 0x0215 => some .captureChanged
  | 0x02A3 => some .mouseLeave
  | 0x02E0 => some .dpiChanged
  | _ => none

end MessageKind

/-- What the window procedure does after the relay saw a message: return a value, or pass the
message on to the default procedure. -/
inductive Response
  | handled (value : Int)
  | default
  deriving DecidableEq, Repr

/-! ## Input method messages -/

inductive CompositionPart
  | composing
  | cursor
  | result
  deriving DecidableEq, Repr

namespace CompositionPart

def all : List CompositionPart :=
  [.composing, .cursor, .result]

instance : Bit CompositionPart where
  position
    | .composing => 3
    | .cursor => 7
    | .result => 11

instance : Bit.Distinct CompositionPart where
  position_injective := by
    intro a b
    cases a <;> cases b <;> simp [Bit.position]

end CompositionPart

structure Composition where
  /-- Which parts the message announces; the others are not looked at. -/
  parts : Mask CompositionPart
  result : Text
  composing : Text
  /-- In UTF-16 units of the composing text. -/
  cursor : Option Nat
  deriving DecidableEq, Repr

namespace Composition

/-- The parts that the second parameter of a message announces. -/
def partsOf (lParam : Int64) : Mask CompositionPart :=
  (Mask.ofWord lParam.toUInt64.toUInt32).known CompositionPart.all

def ofResult (text : Text) : Composition :=
  ⟨Mask.single .result, text, [], none⟩

def ofComposing (text : Text) (cursor : Nat) : Composition :=
  ⟨Mask.ofList [.composing, .cursor], [], text, some cursor⟩

/-- The cursor inside the composing text: where the message says, and at the end otherwise. -/
def cursorUnits (c : Composition) : Nat :=
  let size := Text.unitLength c.composing
  if c.parts.has .cursor then min (c.cursor.getD size) size else size

end Composition

end Win32
end WindowRelay

import WindowRelay.Text.Editor

/-!
# Grid layouts

The simplest layout a host can have: every byte is a cell of one width, and a line holds a fixed
number of bytes, or is never broken when that number is zero.  Any of its answers can be fixed in
advance.
-/

namespace WindowRelay

structure GridLayout where
  charWidth : Float
  lineBytes : Nat
  rect? : Option (Rect Float)
  headEnd? : Option Nat
  index? : Option Nat

namespace GridLayout

def standard : GridLayout :=
  ⟨10.0, 0, none, none, none⟩

/-- The end of the part of a range that its first line shows. -/
def lineEnd (g : GridLayout) (t : Text) (r : ByteRange) : Nat :=
  if g.lineBytes = 0 then
    r.stop
  else
    let lineBreak := (r.start / g.lineBytes + 1) * g.lineBytes
    max r.start (Text.floorOffset (min r.stop lineBreak) t)

def bounds (g : GridLayout) (t : Text) (r : ByteRange) : Rect Float × Nat :=
  let stop := g.lineEnd t r
  let rect : Rect Float :=
    ⟨⟨Float.ofNat r.start * g.charWidth, 4.0⟩,
      ⟨Float.ofNat (stop - r.start) * g.charWidth, 16.5⟩⟩
  (g.rect?.getD rect, g.headEnd?.getD stop)

/-- Points left of the text hit no character. -/
def indexAt (g : GridLayout) (p : Point Float) : Option Nat :=
  if 0.0 ≤ p.x then
    some (g.index?.getD (p.x / g.charWidth).toUInt64.toNat)
  else
    none

def toLayout (g : GridLayout) : Layout Float :=
  ⟨g.bounds, fun _ p => g.indexAt p⟩

end GridLayout

end WindowRelay

/-!
# Ranges

`TextRange` is what input methods speak: a start and a length in UTF-16 units, each at most
`TextRange.limit`.  `ByteRange` is what documents speak: two byte offsets, the second one before
the first for a backward selection.
-/

namespace WindowRelay

structure TextRange where
  start : Nat
  len : Nat
  deriving DecidableEq, Repr, Inhabited

namespace TextRange

/-- The largest offset of a 64-bit machine. -/
def limit : Nat :=
  Nat.pow 2 64 - 1

/-- The offset just past the range, held at the limit. -/
def stop (r : TextRange) : Nat :=
  min (r.start + r.len) limit

def isEmpty (r : TextRange) : Bool :=
  r.len == 0

/-- The range between two offsets, empty when they are out of order. -/
def between (start stop : Nat) : TextRange :=
  ⟨start, stop - start⟩

end TextRange

structure ByteRange where
  start : Nat
  stop : Nat
  deriving DecidableEq, Repr, Inhabited

namespace ByteRange

def length (r : ByteRange) : Nat :=
  r.stop - r.start

def isEmpty (r : ByteRange) : Bool :=
  decide (r.stop ≤ r.start)

def sorted (r : ByteRange) : ByteRange :=
  if r.start ≤ r.stop then r else ⟨r.stop, r.start⟩

/-- Whether an offset is between the ends of a range, or one of them. -/
def reaches (r : ByteRange) (offset : Nat) : Bool :=
  decide (r.start ≤ offset ∧ offset ≤ r.stop)

/-- The offset nearest to a given one that the range reaches. -/
def clamp (r : ByteRange) (offset : Nat) : Nat :=
  max r.start (min offset r.stop)

def caret (offset : Nat) : ByteRange :=
  ⟨offset, offset⟩

def shift (r : ByteRange) (distance : Nat) : ByteRange :=
  ⟨distance + r.start, distance + r.stop⟩

end ByteRange

end WindowRelay

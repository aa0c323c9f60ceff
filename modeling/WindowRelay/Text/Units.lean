/-!
# Text units — one text, two ways to count it

A `Text` is a list of characters.  Documents address it by the bytes of its UTF-8 encoding, input
methods by the 16-bit units of its UTF-16 encoding, in which a character beyond the basic plane
is a pair of units.

* `Text.byteLength`, `Text.unitLength` — the two lengths;
* `Text.splitAt?`, `Text.slice?`, `Text.replace?` — cutting at byte offsets, which fails at an
  offset that is past the end or inside a character;
* `Text.floorOffset` — the last character boundary at or before a byte offset;
* `Text.findUnit` — the byte offset that a unit offset stands for, rounded down to a boundary.
-/

namespace WindowRelay

abbrev Text : Type :=
  List Char

namespace Text

/-! ## Lengths -/

def byteSize (c : Char) : Nat :=
  c.utf8Size

def unitSize (c : Char) : Nat :=
  if c.toNat < 0x10000 then 1 else 2

def byteLength : Text → Nat
  | [] => 0
  | c :: t => byteSize c + byteLength t

def unitLength : Text → Nat
  | [] => 0
  | c :: t => unitSize c + unitLength t

/-- The bytes of the UTF-8 encoding. -/
def bytes (t : Text) : List UInt8 :=
  t.flatMap String.utf8EncodeChar

/-! ## Cutting at byte offsets -/

/-- The two parts of a text around a byte offset, if the offset is a character boundary. -/
def splitAt? : Nat → Text → Option (Text × Text)
  | 0, t => some ([], t)
  | _ + 1, [] => none
  | n + 1, c :: t =>
      if byteSize c ≤ n + 1 then
        (splitAt? (n + 1 - byteSize c) t).map fun (before, after) => (c :: before, after)
      else
        none

def IsBoundary (t : Text) (offset : Nat) : Prop :=
  (splitAt? offset t).isSome

instance (t : Text) (offset : Nat) : Decidable (IsBoundary t offset) :=
  inferInstanceAs (Decidable (_ = true))

def take? (stop : Nat) (t : Text) : Option Text :=
  (splitAt? stop t).map (·.1)

def drop? (start : Nat) (t : Text) : Option Text :=
  (splitAt? start t).map (·.2)

/-- The part between two byte offsets. -/
def slice? (start stop : Nat) (t : Text) : Option Text :=
  if start ≤ stop then (take? stop t).bind (drop? start) else none

/-- The text with the part between two byte offsets replaced. -/
def replace? (start stop : Nat) (new : Text) (t : Text) : Option Text :=
  if start ≤ stop then do
    let before ← take? start t
    let after ← drop? stop t
    pure (before ++ new ++ after)
  else
    none

/-- The last character boundary at or before a byte offset. -/
def floorOffset : Nat → Text → Nat
  | _, [] => 0
  | n, c :: t => if byteSize c ≤ n then byteSize c + floorOffset (n - byteSize c) t else 0

/-! ## From units to bytes -/

/-- A byte offset on a character boundary, and the units that were left over when it was
reached. -/
structure UnitPosition where
  offset : Nat
  extra : Nat
  deriving DecidableEq, Repr

/-- Walk over whole characters as long as the units last.  What is left over is one unit when the
position splits a pair, and the overshoot when it lies past the end. -/
def findUnit : Nat → Text → UnitPosition
  | position, [] => ⟨0, position⟩
  | position, c :: t =>
      if position < unitSize c then
        ⟨0, position⟩
      else
        let rest := findUnit (position - unitSize c) t
        ⟨byteSize c + rest.offset, rest.extra⟩

/-- The units of the first `count` characters. -/
def unitsOfChars (count : Nat) (t : Text) : Nat :=
  unitLength (t.take count)

/-! ## What may be inserted -/

def isControlByte (b : UInt8) : Bool :=
  b < 32 || b == 127

/-- Whether an input method may insert a text: it holds no control byte but the carriage
return. -/
def isInsertable (t : Text) : Bool :=
  (bytes t).all fun b => !isControlByte b || b == 13

end Text

end WindowRelay

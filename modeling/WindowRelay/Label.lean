/-!
# Labels — enumerations with a spelling, and with a number

Where an enumeration is written as a word, `Labelled α` lists its values and spells each of them.
`Labelled.ofLabel?` reads a word back, and knows no other words than the listed ones.

Some enumerations also cross to native code as 32-bit numbers.  The number of a value is its place
in the list of all values, so the numbers are dense and start at zero by construction;
`Enumeration.ofWire` refuses every number that names no value.
-/

namespace WindowRelay

class Labelled (α : Type) where
  /-- Every value, in the order of their numbers where they have any. -/
  all : List α
  label : α → String

namespace Labelled

variable {α : Type} [Labelled α]

def ofLabel? (s : String) : Option α :=
  all.find? (label · == s)

end Labelled

/-! ## Numbers -/

structure InvalidWireValue where
  typeName : String
  value : UInt32
  deriving DecidableEq, Repr

def InvalidWireValue.message (e : InvalidWireValue) : String :=
  toString e.value ++ " is not a valid `" ++ e.typeName ++ "`"

class Enumeration (α : Type) extends Labelled α where
  typeName : String

namespace Enumeration

variable {α : Type} [Enumeration α]

def toWire [DecidableEq α] (a : α) : Nat :=
  (Labelled.all (α := α)).idxOf a

def ofWire (n : UInt32) : Except InvalidWireValue α :=
  match (Labelled.all (α := α))[n.toNat]? with
  | some a => .ok a
  | none => .error ⟨typeName α, n⟩

end Enumeration

end WindowRelay

import WindowRelay.Label

/-!
# Values — the stored form

The value types of the library can be stored as structured values.  `Value` is that form, apart
from any text it may be written in: integers and other numbers are told apart, and a record has
no two fields of one name.

`Coded α` gives the stored form of a type.  The rules of this file are shared by all types:

* a whole number is an integer within its range;
* a record is read from its fields by name, where fields of other names do not count, or from a
  list of all its parts in order;
* one of several labelled values is its label, or a record that has it as the one name.
-/

namespace WindowRelay

inductive Value
  | null
  | bool (b : Bool)
  | int (n : Int)
  | real (x : Float)
  | text (s : String)
  | list (vs : List Value)
  | record (fields : List (String × Value))

class Coded (α : Type) where
  encode : α → Value
  decode? : Value → Option α

namespace Value

/-! ## Parts of records -/

def field? (name : String) : List (String × Value) → Option Value
  | [] => none
  | (n, v) :: fields => if n = name then some v else field? name fields

/-- The parts of a record with given names, in the order of the names. -/
def parts? (names : List String) : Value → Option (List (Option Value))
  | .record fields => some (names.map fun n => field? n fields)
  | .list vs => if vs.length = names.length then some (vs.map some) else none
  | _ => none

/-- A part that has to be there. -/
def required? {α : Type} [Coded α] : Option Value → Option α
  | some v => Coded.decode? v
  | none => none

/-- A part that may be missing or null. -/
def optional? {α : Type} [Coded α] : Option Value → Option (Option α)
  | none => some none
  | some .null => some none
  | some v => (Coded.decode? v).map some

def ofOption {α : Type} [Coded α] : Option α → Value
  | none => .null
  | some a => Coded.encode a

/-- The one field of a record that stands for a choice. -/
def choice? : Value → Option (String × Value)
  | .record [(name, v)] => some (name, v)
  | _ => none

/-! ## Labels -/

def ofLabelled {α : Type} [Labelled α] (a : α) : Value :=
  .text (Labelled.label a)

def toLabelled? {α : Type} [Labelled α] : Value → Option α
  | .text s => Labelled.ofLabel? s
  | .record [(s, .null)] => Labelled.ofLabel? s
  | _ => none

/-! ## Numbers -/

/-- A whole number below a limit. -/
def toNat? (limit : Nat) : Value → Option Nat
  | .int (.ofNat n) => if n < limit then some n else none
  | _ => none

end Value

instance : Coded Bool where
  encode := .bool
  decode?
    | .bool b => some b
    | _ => none

instance : Coded Float where
  encode := .real
  decode?
    | .int n => some (Float.ofInt n)
    | .real x => some x
    | _ => none

instance : Coded UInt8 where
  encode n := .int n.toNat
  decode? v := (v.toNat? (Nat.pow 2 8)).map UInt8.ofNat

instance : Coded UInt64 where
  encode n := .int n.toNat
  decode? v := (v.toNat? (Nat.pow 2 64)).map UInt64.ofNat

end WindowRelay

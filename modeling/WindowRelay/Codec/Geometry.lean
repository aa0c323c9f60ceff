import WindowRelay.Codec.Value
import WindowRelay.Scalar
import WindowRelay.Text.Range
import WindowRelay.Time

/-!
# Stored geometry, times and ranges

Points, sizes and rectangles are records of numbers.  A time is a record of seconds and
nanoseconds; nanoseconds beyond a second carry over, and a time is the only record that admits no
other fields.
-/

namespace WindowRelay

open Value

instance : Coded (Point Float) where
  encode p := .record [("x", Coded.encode p.x), ("y", Coded.encode p.y)]
  decode? v := do
    match ← parts? ["x", "y"] v with
    | [x, y] =>
        let x ← required? x
        let y ← required? y
        pure ⟨x, y⟩
    | _ => none

instance : Coded (Size Float) where
  encode s := .record [("width", Coded.encode s.width), ("height", Coded.encode s.height)]
  decode? v := do
    match ← parts? ["width", "height"] v with
    | [width, height] =>
        let width ← required? width
        let height ← required? height
        pure ⟨width, height⟩
    | _ => none

instance : Coded (Rect Float) where
  encode r := .record [("position", Coded.encode r.origin), ("size", Coded.encode r.size)]
  decode? v := do
    match ← parts? ["position", "size"] v with
    | [origin, size] =>
        let origin ← required? origin
        let size ← required? size
        pure ⟨origin, size⟩
    | _ => none

instance : Coded TextRange where
  encode r := .record [("start", .int r.start), ("len", .int r.len)]
  decode? v := do
    match ← parts? ["start", "len"] v with
    | [start, len] =>
        let start ← start.bind (toNat? (TextRange.limit + 1))
        let len ← len.bind (toNat? (TextRange.limit + 1))
        pure ⟨start, len⟩
    | _ => none

namespace Time

def fieldNames : List String :=
  ["secs", "nanos"]

/-- Whether a value has no fields but those of a time. -/
def hasOwnFields : Value → Bool
  | .record fields => fields.all fun (name, _) => fieldNames.contains name
  | _ => true

/-- A time that a 64-bit count of seconds can reach. -/
def ofStored? (secs nanos : Nat) : Option Time :=
  let t := ofParts secs nanos
  if t.secs < secsLimit then some t else none

end Time

instance : Coded Time where
  encode t := .record [("secs", .int t.secs), ("nanos", .int t.nanos)]
  decode? v := do
    if Time.hasOwnFields v then
      match ← parts? Time.fieldNames v with
      | [secs, nanos] =>
          let secs ← secs.bind (toNat? Time.secsLimit)
          let nanos ← nanos.bind (toNat? (Nat.pow 2 32))
          Time.ofStored? secs nanos
      | _ => none
    else
      none

end WindowRelay

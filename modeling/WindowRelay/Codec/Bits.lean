import WindowRelay.Codec.Value
import WindowRelay.Text.Hex

/-!
# Numbers by their encoding

A floating-point number can be told from every other one by its encoding.  `Value.bits` is the
text of the encoding: sixteen hexadecimal digits, most significant first.  All NaNs have one text.
-/

namespace WindowRelay
namespace Value

def bits (x : Float) : Value :=
  .text (if x.isNaN then "nan" else String.ofList (Text.hexPadded 16 x.toBits.toNat))

mutual

/-- The value with every number that is not an integer replaced by the text of its encoding. -/
def withBits : Value → Value
  | .real x => bits x
  | .list vs => .list (itemsWithBits vs)
  | .record fs => .record (fieldsWithBits fs)
  | v => v

def itemsWithBits : List Value → List Value
  | [] => []
  | v :: vs => withBits v :: itemsWithBits vs

def fieldsWithBits : List (String × Value) → List (String × Value)
  | [] => []
  | (name, v) :: fs => (name, withBits v) :: fieldsWithBits fs

end

end Value
end WindowRelay

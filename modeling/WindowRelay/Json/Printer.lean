import WindowRelay.Codec.Value
import WindowRelay.Decimal.Shortest
import WindowRelay.Text.Hex

/-!
# Writing JSON

`Json.write` writes a stored value as text without any space.

Numbers that are not integers have the fewest digits that read back, and a point or an exponent
that tells them from integers.  They are written positionally if that takes at most sixteen digits
before the point or four zeros after it.  What is not finite cannot be written, and becomes null.
-/

namespace WindowRelay
namespace Json

/-! ## Strings -/

def writeChar (c : Char) : List Char :=
  if c = '\x22' ∨ c = '\\' then ['\\', c]
  else if c.toNat < 0x20 then '\\' :: 'u' :: Text.hexPadded 4 c.toNat
  else [c]

def quoted (t : List Char) : List Char :=
  '\x22' :: t.flatMap writeChar ++ ['\x22']

/-! ## Numbers -/

/-- Digits with a point after the first of them, if there are more. -/
def pointed : List Char → List Char
  | d :: e :: ds => d :: '.' :: e :: ds
  | ds => ds

/-- A nonnegative decimal.  The point comes `place` digits after the start of its digits. -/
def decimalText (d : Decimal) : List Char :=
  let ds := Nat.toDigits 10 d.digits
  let place : Int := ds.length + d.exponent
  if 0 ≤ d.exponent ∧ place ≤ 16 then
    ds ++ List.replicate d.exponent.toNat '0' ++ ['.', '0']
  else if 0 < place ∧ place ≤ 16 then
    ds.take place.toNat ++ '.' :: ds.drop place.toNat
  else if -5 < place ∧ place ≤ 0 then
    '0' :: '.' :: List.replicate (-place).toNat '0' ++ ds
  else
    pointed ds ++ 'e' :: (toString (place - 1)).toList

def realText (x : Float) : List Char :=
  match Magnitude.ofFloat? x with
  | none => "null".toList
  | some m =>
      let size := decimalText (Decimal.shortest m)
      if Magnitude.signOf x then '-' :: size else size

/-! ## Values -/

/-- The parts, with a comma between each two. -/
def commaJoined (parts : List (List Char)) : List Char :=
  [','].intercalate parts

mutual

def chars : Value → List Char
  | .null => "null".toList
  | .bool true => "true".toList
  | .bool false => "false".toList
  | .int n => (toString n).toList
  | .real x => realText x
  | .text s => quoted s.toList
  | .list vs => '[' :: commaJoined (itemChars vs) ++ [']']
  | .record fs => '\x7b' :: commaJoined (fieldChars fs) ++ ['\x7d']

def itemChars : List Value → List (List Char)
  | [] => []
  | v :: vs => chars v :: itemChars vs

def fieldChars : List (String × Value) → List (List Char)
  | [] => []
  | (name, v) :: fs => (quoted name.toList ++ ':' :: chars v) :: fieldChars fs

end

def write (v : Value) : String :=
  String.ofList (chars v)

end Json
end WindowRelay

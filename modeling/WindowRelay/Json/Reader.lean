import WindowRelay.Codec.Value
import WindowRelay.Text.Hex

/-!
# Reading JSON

`Json.read?` reads a text as one stored value.

* A number is an integer if it is written without a fraction and an exponent, fits a signed or an
  unsigned 64-bit word and is not a negative zero.  Every other number is rounded to the nearest
  floating-point number.
* Of several fields with one name the last one counts.
* Half a surrogate pair stands for no character and is refused.

The readers take the characters still to be read and answer with the rest of them.  Fuel bounds
the depth of their calls.  Of two nested calls at least one has consumed a character, so twice the
length of a text is enough for it.
-/

namespace WindowRelay
namespace Json

/-- A reader: the value read, and the rest. -/
abbrev Reader (α : Type) : Type :=
  List Char → Option (α × List Char)

def isSpace (c : Char) : Bool :=
  c == ' ' || c == '\t' || c == '\n' || c == '\r'

def skipSpace (cs : List Char) : List Char :=
  cs.dropWhile isSpace

/-! ## Strings -/

/-- Four hexadecimal digits. -/
def unit? : Reader Nat
  | a :: b :: c :: d :: cs => (Text.ofHexDigits? 0 [a, b, c, d]).map fun n => (n, cs)
  | _ => none

def isHighSurrogate (n : Nat) : Bool :=
  decide (0xD800 ≤ n ∧ n ≤ 0xDBFF)

def isLowSurrogate (n : Nat) : Bool :=
  decide (0xDC00 ≤ n ∧ n ≤ 0xDFFF)

/-- The character of one unit, or of a pair of them. -/
def codePoint? : Reader Char := fun cs => do
  let (high, cs) ← unit? cs
  if isHighSurrogate high then
    match cs with
    | '\\' :: 'u' :: cs => do
        let (low, cs) ← unit? cs
        if isLowSurrogate low then
          some (Char.ofNat (0x10000 + (high - 0xD800) * 0x400 + (low - 0xDC00)), cs)
        else
          none
    | _ => none
  else if isLowSurrogate high then
    none
  else
    some (Char.ofNat high, cs)

/-- The character of an escape, after its backslash. -/
def escape? : Reader Char
  | '\x22' :: cs => some ('\x22', cs)
  | '\\' :: cs => some ('\\', cs)
  | '/' :: cs => some ('/', cs)
  | 'b' :: cs => some ('\x08', cs)
  | 'f' :: cs => some ('\x0c', cs)
  | 'n' :: cs => some ('\n', cs)
  | 'r' :: cs => some ('\r', cs)
  | 't' :: cs => some ('\t', cs)
  | 'u' :: cs => codePoint? cs
  | _ => none

/-- A string, after its opening quote. -/
def text? : Nat → Reader (List Char)
  | 0, _ => none
  | _ + 1, [] => none
  | _ + 1, '\x22' :: cs => some ([], cs)
  | fuel + 1, '\\' :: cs => do
      let (c, cs) ← escape? cs
      let (t, cs) ← text? fuel cs
      some (c :: t, cs)
  | fuel + 1, c :: cs =>
      if c.toNat < 0x20 then
        none
      else do
        let (t, cs) ← text? fuel cs
        some (c :: t, cs)

/-! ## Numbers -/

def ofDigits (cs : List Char) : Nat :=
  cs.foldl (fun n c => n * 10 + (c.toNat - '0'.toNat)) 0

/-- Digits, and at least one of them. -/
def digits? : Reader (List Char) := fun cs =>
  match cs.span Char.isDigit with
  | ([], _) => none
  | (ds, rest) => some (ds, rest)

/-- Digits without a superfluous zero in front. -/
def whole? : Reader (List Char)
  | '0' :: cs => some (['0'], cs)
  | cs => digits? cs

/-- The digits of a fraction, if there is one. -/
def fraction? : Reader (Option (List Char))
  | '.' :: cs => (digits? cs).map fun (ds, cs) => (some ds, cs)
  | cs => some (none, cs)

def signed? : Reader Int
  | '-' :: cs => (digits? cs).map fun (ds, cs) => (-(ofDigits ds : Int), cs)
  | '+' :: cs => (digits? cs).map fun (ds, cs) => (ofDigits ds, cs)
  | cs => (digits? cs).map fun (ds, cs) => (ofDigits ds, cs)

/-- The exponent, if there is one. -/
def exponent? : Reader (Option Int)
  | 'e' :: cs => (signed? cs).map fun (n, cs) => (some n, cs)
  | 'E' :: cs => (signed? cs).map fun (n, cs) => (some n, cs)
  | cs => some (none, cs)

/-- `mantissa * 10 ^ exponent`, rounded. -/
def decimal (negative : Bool) (mantissa : Nat) (exponent : Int) : Float :=
  let size := Float.ofScientific mantissa (decide (exponent < 0)) exponent.natAbs
  if negative then -size else size

/-- An integer that a word can hold. -/
def integer? (negative : Bool) (n : Nat) : Option Int :=
  if negative then
    if n ≠ 0 ∧ n ≤ Nat.pow 2 63 then some (-(n : Int)) else none
  else
    if n < Nat.pow 2 64 then some n else none

def numberOf (negative : Bool) (whole : List Char) (fraction : Option (List Char))
    (exponent : Option Int) : Value :=
  let tail := fraction.getD []
  let real := Value.real
    (decimal negative (ofDigits (whole ++ tail)) (exponent.getD 0 - tail.length))
  match fraction, exponent with
  | none, none =>
      match integer? negative (ofDigits whole) with
      | some n => .int n
      | none => real
  | _, _ => real

def unsigned? (negative : Bool) : Reader Value := fun cs => do
  let (whole, cs) ← whole? cs
  let (fraction, cs) ← fraction? cs
  let (exponent, cs) ← exponent? cs
  some (numberOf negative whole fraction exponent, cs)

def number? : Reader Value
  | '-' :: cs => unsigned? true cs
  | cs => unsigned? false cs

/-! ## Values -/

/-- A fixed word that stands for a value. -/
def word? (word : String) (v : Value) : Reader Value := fun cs =>
  if word.toList.isPrefixOf cs then some (v, cs.drop word.length) else none

/-- A record with one field more.  Fields of the same name are replaced. -/
def putField (name : String) (v : Value) (fields : List (String × Value)) :
    List (String × Value) :=
  fields.filter (fun (n, _) => n != name) ++ [(name, v)]

/-- A field name with the colon after it. -/
def name? (fuel : Nat) : Reader String := fun cs =>
  match skipSpace cs with
  | '\x22' :: cs => do
      let (t, cs) ← text? fuel cs
      match skipSpace cs with
      | ':' :: cs => some (String.ofList t, cs)
      | _ => none
  | _ => none

mutual

def value? : Nat → Reader Value
  | 0, _ => none
  | fuel + 1, cs =>
      match skipSpace cs with
      | '\x22' :: cs => (text? fuel cs).map fun (t, cs) => (.text (String.ofList t), cs)
      | '[' :: cs =>
          match skipSpace cs with
          | ']' :: cs => some (.list [], cs)
          | cs => items? fuel [] cs
      | '\x7b' :: cs =>
          match skipSpace cs with
          | '\x7d' :: cs => some (.record [], cs)
          | cs => fields? fuel [] cs
      | 'n' :: cs => word? "null" .null ('n' :: cs)
      | 't' :: cs => word? "true" (.bool true) ('t' :: cs)
      | 'f' :: cs => word? "false" (.bool false) ('f' :: cs)
      | cs => number? cs

/-- The rest of a list with at least one more value.  The values read so far come last first. -/
def items? : Nat → List Value → Reader Value
  | 0, _, _ => none
  | fuel + 1, vs, cs => do
      let (v, cs) ← value? fuel cs
      match skipSpace cs with
      | ',' :: cs => items? fuel (v :: vs) cs
      | ']' :: cs => some (.list (v :: vs).reverse, cs)
      | _ => none

/-- The rest of a record with at least one more field. -/
def fields? : Nat → List (String × Value) → Reader Value
  | 0, _, _ => none
  | fuel + 1, fs, cs => do
      let (name, cs) ← name? fuel cs
      let (v, cs) ← value? fuel cs
      match skipSpace cs with
      | ',' :: cs => fields? fuel (putField name v fs) cs
      | '\x7d' :: cs => some (.record (putField name v fs), cs)
      | _ => none

end

/-- The value of a whole text. -/
def read? (s : String) : Option Value := do
  let cs := s.toList
  let (v, rest) ← value? (2 * cs.length + 2) cs
  if (skipSpace rest).isEmpty then some v else none

end Json
end WindowRelay

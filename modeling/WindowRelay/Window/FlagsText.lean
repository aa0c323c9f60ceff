import WindowRelay.Text.Hex
import WindowRelay.Window.Flags

/-!
# Flags as text

A set of flags is written as words joined by bars: the names of its features in bit order, and then
what bits are left over as one hexadecimal number.  The empty set has no words.

Reading is more generous: words come in any order and any number of times, numbers may stand for
named bits too, and blanks around words do not count.  An empty word among others is refused.
A blank is a character with the Unicode property `White_Space`.
-/

namespace WindowRelay

/-! ## Blanks -/

namespace Text

/-- The blanks, as ranges of code points. -/
def blankRanges : List (Nat × Nat) :=
  [(0x0009, 0x000D), (0x0020, 0x0020), (0x0085, 0x0085), (0x00A0, 0x00A0), (0x1680, 0x1680),
    (0x2000, 0x200A), (0x2028, 0x2029), (0x202F, 0x202F), (0x205F, 0x205F), (0x3000, 0x3000)]

def isBlank (c : Char) : Bool :=
  blankRanges.any fun (first, last) => decide (first ≤ c.toNat ∧ c.toNat ≤ last)

/-- A text without the blanks around it. -/
def trim (t : List Char) : List Char :=
  ((t.dropWhile isBlank).reverse.dropWhile isBlank).reverse

end Text

namespace WindowFlags

/-! ## Writing -/

/-- A number in hexadecimal, marked as such. -/
def hexText (n : Nat) : String :=
  "0x" ++ String.ofList (Text.hexDigits n)

def words (f : WindowFlags) : List String :=
  f.features.map Labelled.label ++
    if f.unnamed.isEmpty then [] else [hexText f.unnamed.bits.toNat]

def text (f : WindowFlags) : String :=
  " | ".intercalate f.words

def describe (f : WindowFlags) : String :=
  "WindowFlags(" ++ (if f.isEmpty then "0x0" else f.text) ++ ")"

/-! ## Reading -/

/-- A 32-bit number in hexadecimal, of at least one digit.  A plus sign may precede it. -/
def ofHexText? (t : List Char) : Option WindowFlags :=
  let digits := if t.head? = some '+' then t.tail else t
  if digits.isEmpty then
    none
  else
    match Text.ofHexDigits? 0 digits with
    | none => none
    | some n => if n < Nat.pow 2 32 then some ⟨BitVec.ofNat 32 n⟩ else none

def ofWord? (t : List Char) : Option WindowFlags :=
  match t with
  | '0' :: 'x' :: digits => ofHexText? digits
  | _ => (Labelled.ofLabel? (String.ofList t)).map Mask.single

/-- The parts of a text between the bars. -/
def parts : List Char → List (List Char)
  | [] => [[]]
  | c :: cs =>
      if c = '|' then
        [] :: parts cs
      else
        match parts cs with
        | [] => [[c]]
        | p :: ps => (c :: p) :: ps

def ofParts? : List (List Char) → Option WindowFlags
  | [] => some Mask.empty
  | p :: ps => do
      let f ← ofWord? (Text.trim p)
      let rest ← ofParts? ps
      pure (f.union rest)

def ofText? (s : String) : Option WindowFlags :=
  if s.toList.all Text.isBlank then some Mask.empty else ofParts? (parts s.toList)

end WindowFlags
end WindowRelay

/-!
# Hexadecimal digits

Numbers in base sixteen.  Written with lower-case digits, read with either.
-/

namespace WindowRelay
namespace Text

def hexDigits (n : Nat) : List Char :=
  Nat.toDigits 16 n

/-- The digits of a number, with zeros in front up to a given width. -/
def hexPadded (width n : Nat) : List Char :=
  List.replicate (width - (hexDigits n).length) '0' ++ hexDigits n

def ofHexDigit? (c : Char) : Option Nat :=
  if '0' ≤ c ∧ c ≤ '9' then some (c.toNat - '0'.toNat)
  else if 'a' ≤ c ∧ c ≤ 'f' then some (c.toNat - 'a'.toNat + 10)
  else if 'A' ≤ c ∧ c ≤ 'F' then some (c.toNat - 'A'.toNat + 10)
  else none

/-- The number whose digits are those of `n` followed by the given ones. -/
def ofHexDigits? : Nat → List Char → Option Nat
  | n, [] => some n
  | n, c :: cs =>
      match ofHexDigit? c with
      | none => none
      | some d => ofHexDigits? (n * 16 + d) cs

end Text
end WindowRelay

/-!
# Mask — sets of named bits in a 32-bit word

Native records carry sets as words.  A `Mask ι` is such a word whose bits are named by `ι`.  Bits
without a name are kept as they are: they take no part in membership, but the empty set has none
of them either.

* `Bit ι` — the bit that a name stands for;
* `Mask.has`, `Mask.insert`, `Mask.erase`, `Mask.isEmpty` — the set operations;
* `Mask.known` — the word without its unnamed bits.

`Mask.ext_bits` and the `getLsbD` lemmas read every operation bit by bit, and the `has` lemmas name
by name.  Where names have bits of their own (`Bit.Distinct`), taking one out leaves the others in.
-/

namespace WindowRelay

/-- With this a bit of a word can be written as a number. -/
instance wordNeZero : @NeZero Nat Zero.ofOfNat0 32 :=
  ⟨Nat.succ_ne_zero 31⟩

class Bit (ι : Type) where
  position : ι → Fin 32

/-- No two names share a bit. -/
class Bit.Distinct (ι : Type) [Bit ι] : Prop where
  position_injective : ∀ a b : ι, Bit.position a = Bit.position b → a = b

structure Mask (ι : Type) where
  bits : BitVec 32
  deriving DecidableEq, Repr, Inhabited

namespace Mask

variable {ι : Type}

def empty : Mask ι :=
  ⟨0⟩

def isEmpty (m : Mask ι) : Bool :=
  m.bits == 0

def union (a b : Mask ι) : Mask ι :=
  ⟨a.bits ||| b.bits⟩

def ofWord (w : UInt32) : Mask ι :=
  ⟨w.toBitVec⟩

def toWord (m : Mask ι) : UInt32 :=
  ⟨m.bits⟩

variable [Bit ι]

/-- The word with the bit of `i` alone. -/
def single (i : ι) : Mask ι :=
  ⟨BitVec.twoPow 32 (Bit.position i)⟩

def has (m : Mask ι) (i : ι) : Bool :=
  m.bits.getLsbD (Bit.position i)

def insert (m : Mask ι) (i : ι) : Mask ι :=
  ⟨m.bits ||| (single i).bits⟩

def erase (m : Mask ι) (i : ι) : Mask ι :=
  ⟨m.bits &&& ~~~(single i).bits⟩

def ofList : List ι → Mask ι
  | [] => empty
  | i :: is => (ofList is).insert i

/-- The bits of `m` that some name of `names` stands for. -/
def known (names : List ι) (m : Mask ι) : Mask ι :=
  ⟨m.bits &&& (ofList names).bits⟩

/-- The bits of `m` that no name of `names` stands for. -/
def unknown (names : List ι) (m : Mask ι) : Mask ι :=
  ⟨m.bits &&& ~~~(ofList names).bits⟩

/-! ## Bit by bit -/

omit [Bit ι] in
theorem ext_bits {a b : Mask ι} (h : ∀ n < 32, a.bits.getLsbD n = b.bits.getLsbD n) : a = b := by
  cases a with
  | mk a =>
      cases b with
      | mk b => exact congrArg Mask.mk (BitVec.eq_of_getLsbD_eq fun n hn => h n hn)

omit [Bit ι] in
@[simp]
theorem getLsbD_empty (n : Nat) : (empty : Mask ι).bits.getLsbD n = false := by
  simp [empty]

theorem getLsbD_single (i : ι) (n : Nat) :
    (single i).bits.getLsbD n = decide (n = Bit.position i) := by
  simp only [single, BitVec.getLsbD_twoPow]
  grind

theorem getLsbD_insert (m : Mask ι) (i : ι) (n : Nat) :
    (m.insert i).bits.getLsbD n = (m.bits.getLsbD n || decide (n = Bit.position i)) := by
  simp only [insert, BitVec.getLsbD_or, getLsbD_single]

theorem getLsbD_erase (m : Mask ι) (i : ι) (n : Nat) :
    (m.erase i).bits.getLsbD n = (m.bits.getLsbD n && !decide (n = Bit.position i)) := by
  simp only [erase, BitVec.getLsbD_and, BitVec.getLsbD_not, getLsbD_single]
  cases h : m.bits.getLsbD n with
  | false => rfl
  | true => simp [BitVec.lt_of_getLsbD h]

/-! ## Membership -/

@[simp]
theorem has_empty (i : ι) : (empty : Mask ι).has i = false :=
  getLsbD_empty _

theorem has_insert (m : Mask ι) (i j : ι) :
    (m.insert i).has j = (m.has j || decide (Bit.position j = Bit.position i)) := by
  simp only [has, getLsbD_insert, Fin.ext_iff]

theorem has_erase (m : Mask ι) (i j : ι) :
    (m.erase i).has j = (m.has j && !decide (Bit.position j = Bit.position i)) := by
  simp only [has, getLsbD_erase, Fin.ext_iff]

@[simp]
theorem has_insert_self (m : Mask ι) (i : ι) : (m.insert i).has i = true := by
  simp [has_insert]

@[simp]
theorem has_erase_self (m : Mask ι) (i : ι) : (m.erase i).has i = false := by
  simp [has_erase]

theorem has_erase_of_ne [Bit.Distinct ι] (m : Mask ι) {i j : ι} (h : j ≠ i) :
    (m.erase i).has j = m.has j := by
  have hposition : Bit.position j ≠ Bit.position i :=
    fun same => h (Bit.Distinct.position_injective j i same)
  rw [has_erase, decide_eq_false hposition, Bool.not_false, Bool.and_true]

theorem insert_ne_empty (m : Mask ι) (i : ι) : (m.insert i).isEmpty = false := by
  cases h : (m.insert i).isEmpty with
  | false => rfl
  | true =>
      have hz : (m.insert i).bits = 0 := by simpa [isEmpty] using h
      have hi : (m.insert i).has i = true := has_insert_self m i
      simp [has, hz] at hi

/-! ## Equal sets -/

omit [Bit ι] in
theorem isEmpty_iff {m : Mask ι} : m.isEmpty = true ↔ m = empty := by
  cases m with
  | mk bits => simp [isEmpty, empty]

omit [Bit ι] in
theorem eq_empty_iff_bits {m : Mask ι} :
    m = empty ↔ ∀ n : Fin 32, m.bits.getLsbD n = false := by
  constructor
  · intro h n
    rw [h, getLsbD_empty]
  · intro h
    exact ext_bits fun n hn => by rw [h ⟨n, hn⟩, getLsbD_empty]

theorem insert_empty (i : ι) : (empty : Mask ι).insert i = single i := by
  refine ext_bits fun n _ => ?_
  rw [getLsbD_insert, getLsbD_empty, getLsbD_single, Bool.false_or]

theorem insert_of_has {m : Mask ι} {i : ι} (h : m.has i = true) : m.insert i = m := by
  refine ext_bits fun n _ => ?_
  rw [getLsbD_insert]
  by_cases hn : n = Bit.position i
  · subst hn
    rw [show m.bits.getLsbD (Bit.position i) = true from h, Bool.true_or]
  · simp [hn]

theorem erase_of_not_has {m : Mask ι} {i : ι} (h : m.has i = false) : m.erase i = m := by
  refine ext_bits fun n _ => ?_
  rw [getLsbD_erase]
  by_cases hn : n = Bit.position i
  · subst hn
    rw [show m.bits.getLsbD (Bit.position i) = false from h, Bool.false_and]
  · simp [hn]

end Mask

end WindowRelay

import Mathlib
import WindowRelay.Proofs.Time

/-!
# Seconds — no time but zero is zero seconds

Velocities are distances by times, and a time becomes a floating-point number of seconds first.
Numbers of seconds and of nanoseconds are rounded, divided and added up on the way, and one that is
not zero must not become zero by that.  All numbers are far above the smallest one, where a rounding
never loses the leading digit.

- `Binary64.AtLeast`: a number that is a power of two or more.
- `Binary64.atLeast_round`, `Binary64.atLeast_unpack_pack`: rounding and storing a number.
- `Time.isZero_toSeconds`: the seconds of a time.
-/

namespace WindowRelay
namespace Binary64

open Float.Model (Format UnpackedFloat totalExponent)
open Float.Model.UnpackedFloat

/-! ## Rounding -/

theorem shiftRight_mantissa (em : ExtendedMantissa) (k : Nat) :
    (em >>> k).mantissa = em.mantissa / 2 ^ k := by
  induction k with
  | zero =>
      exact (Nat.div_one _).symm
  | succ k ih =>
      calc
        (em >>> (k + 1)).mantissa = (em >>> k).mantissa / 2 := rfl
        _ = em.mantissa / 2 ^ (k + 1) := by rw [ih, Nat.div_div_eq_div_mul, Nat.pow_succ]

theorem mantissa_ofMantissaAndAccuracy (m : Nat) (accuracy : Accuracy) :
    (ExtendedMantissa.ofMantissaAndAccuracy m accuracy).mantissa = m := by
  cases accuracy with
  | exact => rfl
  | inexact o => cases o <;> rfl

theorem roundedMantissa_bounds (em : ExtendedMantissa) :
    em.mantissa ≤ em.roundedMantissa ∧ em.roundedMantissa ≤ em.mantissa + 1 := by
  rcases em with ⟨m, roundBit, stickyBit⟩
  cases roundBit <;> cases stickyBit <;>
    simp [ExtendedMantissa.roundedMantissa, ExtendedMantissa.accuracy, Accuracy.roundToNearestEven]
  omega

/-- Above the smallest numbers the target exponent leaves 53 digits. -/
theorem targetExponent_eq {m : Nat} {e : Int} (h : -1022 ≤ e + m.log2) :
    Format.binary64.targetExponent (totalExponent m e) = e + m.log2 - 52 := by
  simp only [Format.targetExponent, totalExponent, Format.mantissaBits, Format.minExponent]
  omega

theorem log2_eq {m k : Nat} (lower : 2 ^ k ≤ m) (upper : m < 2 ^ (k + 1)) : m.log2 = k :=
  (Nat.log2_eq_iff (Nat.ne_of_gt (Nat.lt_of_lt_of_le (Nat.two_pow_pos k) lower))).2 ⟨lower, upper⟩

/-- A number of at least `2 ^ t` in its normal form, or infinity. -/
inductive AtLeast (t : Int) : UnpackedFloat → Prop
  | infinity : AtLeast t (.infinity .positive)
  | finite {m : Nat} {e : Int} {pos : 0 < m} (lower : 2 ^ 52 ≤ m) (upper : m < 2 ^ 53)
      (large : t ≤ e + 52) : AtLeast t (.finite .positive m e pos)

theorem AtLeast.mono {s t : Int} {u : UnpackedFloat} (h : AtLeast t u) (hst : s ≤ t) :
    AtLeast s u := by
  cases h with
  | infinity => exact .infinity
  | finite lower upper large => exact .finite lower upper (Int.le_trans hst large)

theorem shiftToTargetExponent_eq {m : Nat} {e : Int} (h : -1022 ≤ e + m.log2)
    (enough : 52 ≤ m.log2) (accuracy : Accuracy) :
    ∃ em, shiftToTargetExponent Format.binary64 m e accuracy = (em, e + m.log2 - 52) ∧
      em.mantissa = m / 2 ^ (m.log2 - 52) := by
  have hshift : (e + m.log2 - 52 - e).toNat = m.log2 - 52 := by omega
  have hexponent : e + ((m.log2 - 52 : Nat) : Int) = e + m.log2 - 52 := by omega
  refine ⟨ExtendedMantissa.ofMantissaAndAccuracy m accuracy >>> (m.log2 - 52), ?_, ?_⟩
  · simp only [shiftToTargetExponent, shiftToExponent, targetExponent_eq h, hshift, hexponent]
  · rw [shiftRight_mantissa, mantissa_ofMantissaAndAccuracy]

/-- With 53 digits or more to round, the leading digit stays. -/
theorem atLeast_roundWithAccuracy {t : Int} {m : Nat} {e : Int} (ht : -1022 ≤ t)
    (large : t ≤ e + m.log2) (hm : m ≠ 0) (enough : 52 ≤ m.log2) (accuracy : Accuracy) :
    AtLeast t (roundWithAccuracy Format.binary64 .positive m e accuracy) := by
  rcases shiftToTargetExponent_eq (m := m) (e := e) (by omega) enough accuracy with
    ⟨em, hfirst, hmantissa⟩
  have hsplit : 2 ^ 52 * 2 ^ (m.log2 - 52) = 2 ^ m.log2 := by
    rw [← Nat.pow_add, Nat.add_sub_cancel' enough]
  have hlower : 2 ^ 52 ≤ em.mantissa := by
    rw [hmantissa, Nat.le_div_iff_mul_le (Nat.two_pow_pos _), hsplit]
    exact Nat.log2_self_le hm
  have hupper : em.mantissa < 2 ^ 53 := by
    have hnext : 2 ^ 53 * 2 ^ (m.log2 - 52) = 2 ^ (m.log2 + 1) := by
      rw [← Nat.pow_add]
      congr 1
      omega
    rw [hmantissa, Nat.div_lt_iff_lt_mul (Nat.two_pow_pos _), hnext]
    exact Nat.lt_log2_self
  have hbounds := roundedMantissa_bounds em
  generalize hr : em.roundedMantissa = r at hbounds
  -- Rounding up may have made one digit too many, which the second shift takes off.
  have hlog : r.log2 = 52 ∧ r < 2 ^ 53 ∨ r.log2 = 53 ∧ r = 2 ^ 53 := by
    by_cases hsmall : r < 2 ^ 53
    · exact .inl ⟨log2_eq (by omega) hsmall, hsmall⟩
    · exact .inr ⟨log2_eq (by omega) (by omega), by omega⟩
  rcases shiftToTargetExponent_eq (m := r) (e := e + m.log2 - 52) (by omega) (by omega) .exact
    with ⟨em', hsecond, hmantissa'⟩
  have hfinal : 2 ^ 52 ≤ em'.mantissa ∧ em'.mantissa < 2 ^ 53 := by
    rcases hlog with ⟨hlog, hsmall⟩ | ⟨hlog, hlarge⟩
    · rw [hmantissa', hlog, Nat.sub_self, Nat.pow_zero, Nat.div_one]
      omega
    · rw [hmantissa', hlog, hlarge]
      decide
  have hne : em'.mantissa ≠ 0 := by omega
  simp only [roundWithAccuracy, hfirst, hr, hsecond, hne, dite_false]
  exact .finite hfinal.1 hfinal.2 (by omega)

theorem log2_shiftLeft {m : Nat} (hm : m ≠ 0) (k : Nat) : (m <<< k).log2 = m.log2 + k := by
  have hlower := Nat.mul_le_mul_right (2 ^ k) (Nat.log2_self_le hm)
  have hupper := Nat.mul_lt_mul_of_pos_right (Nat.lt_log2_self (n := m)) (Nat.two_pow_pos k)
  rw [← Nat.pow_add] at hlower hupper
  rw [Nat.shiftLeft_eq]
  exact log2_eq hlower (by rwa [Nat.add_right_comm] at hupper)

theorem atLeast_round {t : Int} {m : Nat} {e : Int} (ht : -1022 ≤ t) (large : t ≤ e + m.log2)
    (hm : m ≠ 0) : AtLeast t (UnpackedFloat.round Format.binary64 .positive m e) := by
  have hlog := log2_shiftLeft hm (e - (e + m.log2 - 52)).toNat
  have hshifted : m <<< (e - (e + m.log2 - 52)).toNat ≠ 0 := by
    rw [Nat.shiftLeft_eq]
    exact Nat.mul_ne_zero hm (Nat.ne_of_gt (Nat.two_pow_pos _))
  simp only [UnpackedFloat.round, decreaseExponent, targetExponent_eq (m := m) (e := e) (by omega)]
  exact atLeast_roundWithAccuracy ht (by omega) hshifted (by omega) .exact

/-! ## Storing -/

/-- An exponent that is neither the smallest nor the largest stands for a number with 53 digits. -/
theorem unpack_packComponents {x : BitVec 11} (smallest : x ≠ 0#11) (largest : x ≠ -1#11)
    (y : BitVec 52) :
    ∃ m pos, 2 ^ 52 ≤ m ∧ m < 2 ^ 53 ∧
      unpack Format.binary64 (packComponents Format.binary64 .positive x y) =
        .finite .positive m ((x.toNat : Int) - 1075) pos := by
  have hdigits : (1#1 ++ y).toNat = 2 ^ 52 + y.toNat := by
    rw [BitVec.toNat_append, Nat.shiftLeft_eq, Nat.or_comm]
    change y.toNat ||| 2 ^ 52 = _
    rw [Nat.or_two_pow_eq_add_of_lt y.isLt, Nat.add_comm]
  have hupper : y.toNat < 2 ^ 52 := y.isLt
  have hpos : 0 < (1#1 ++ y).toNat := by omega
  have hunpack : unpack Format.binary64 (packComponents Format.binary64 .positive x y) =
      .finite .positive (1#1 ++ y).toNat ((x.toNat : Int) - 1075) hpos := by
    simp only [unpack, unpackMantissa_packComponents, unpackExponent_packComponents,
      unpackSign_packComponents]
    rw [if_neg largest, if_neg smallest]
    rfl
  exact ⟨_, hpos, by omega, by omega, hunpack⟩

/-- A number that is stored comes back with its exponent, or as infinity. -/
theorem atLeast_unpack_pack {t : Int} {u : UnpackedFloat} (ht : -1022 ≤ t) (h : AtLeast t u) :
    AtLeast t (unpack Format.binary64 (pack Format.binary64 u)) := by
  have hinfinity : unpack Format.binary64 (packedInfinity Format.binary64 .positive) =
      .infinity .positive := rfl
  cases h with
  | infinity =>
      simp only [pack, hinfinity]
      exact .infinity
  | @finite m e pos lower upper large =>
      have hlog : m.log2 + 1 = Format.binary64.mantissaBits := by
        rw [log2_eq lower upper]
        rfl
      have hbias : e + (Format.binary64.exponentBias : Int) +
          (Format.binary64.mantissaBitsWithoutImplicit : Int) = e + 1075 := by
        change e + 1023 + 52 = e + 1075
        omega
      by_cases hlarge : 2 ^ 11 ≤ (e + 1075).toNat + 1
      · simp only [pack, hbias, hlarge, if_true, hinfinity]
        exact .infinity
      · have hexponent : (BitVec.ofNat 11 (e + 1075).toNat).toNat = (e + 1075).toNat := by
          rw [BitVec.toNat_ofNat]
          omega
        have hsmallest : BitVec.ofNat 11 (e + 1075).toNat ≠ 0#11 := by
          intro h
          have hzero := congrArg BitVec.toNat h
          rw [hexponent] at hzero
          change (e + 1075).toNat = 0 at hzero
          omega
        have hlargest : BitVec.ofNat 11 (e + 1075).toNat ≠ -1#11 := by
          intro h
          have hones := congrArg BitVec.toNat h
          rw [hexponent] at hones
          change (e + 1075).toNat = 2047 at hones
          omega
        rcases unpack_packComponents hsmallest hlargest (BitVec.ofNat 52 m) with
          ⟨m', pos', hlower, hupper, hunpack⟩
        simp only [pack, hbias, hlarge, if_false, hlog, if_true, hunpack]
        exact .finite hlower hupper (by omega)

/-! ## Arithmetic -/

variable {t : Int} {x y : Float}

theorem isZero_eq_false (h : AtLeast t x.toModel.unpack) : Scalar.isZero x = false := by
  have hzero : (0.0 : Float).toModel.unpack = .zero .positive := rfl
  change UnpackedFloat.beq x.toModel.unpack (0.0 : Float).toModel.unpack = false
  rw [hzero]
  generalize x.toModel.unpack = u at h
  cases h <;> rfl

/-- The product with one. -/
theorem atLeast_mul_one {u : UnpackedFloat} (ht : -1022 ≤ t) (h : AtLeast t u) (pos : 0 < 2 ^ 52) :
    AtLeast t (mul Format.binary64 u (.finite .positive (2 ^ 52) (-52) pos)) := by
  cases h with
  | infinity =>
      exact .infinity
  | @finite m e hm lower upper large =>
      have hlog : (m * 2 ^ 52).log2 = m.log2 + 52 := by
        rw [← Nat.shiftLeft_eq]
        exact log2_shiftLeft (Nat.ne_of_gt hm) 52
      have hlog' : m.log2 = 52 := log2_eq lower upper
      have hne : m * 2 ^ 52 ≠ 0 := by omega
      exact atLeast_roundWithAccuracy ht (by omega) hne (by omega) .exact

theorem atLeast_ofNat {n : Nat} (hn : n ≠ 0) :
    AtLeast 0 (Scalar.ofNat n : Float).toModel.unpack := by
  change AtLeast 0 (Float.ofScientific n false 0).toModel.unpack
  by_cases hsmall : n < 2 ^ 53
  · have hword : n.toUInt64.toNat = n := by
      change n % 2 ^ 64 = n
      omega
    have hround : AtLeast 0 (UnpackedFloat.round Format.binary64 .positive n 0) :=
      atLeast_round (by decide) (by omega) hn
    have hconvert : ofUInt64 Format.binary64 n.toUInt64 =
        UnpackedFloat.round Format.binary64 .positive n 0 := by
      have hcompare : compare (n : Int) 0 = .gt := Int.compare_eq_gt.2 (by omega)
      simp only [ofUInt64, ofNat, ofInt, UnpackedFloat.normalize, hword, hcompare,
        Int.toNat_natCast]
    have hfloat : AtLeast 0 n.toUInt64.toFloat.toModel.unpack := by
      change AtLeast 0 (unpack _ (pack _ (ofUInt64 Format.binary64 n.toUInt64)))
      rw [hconvert]
      exact atLeast_unpack_pack (by decide) hround
    have hone : (Float.ofBits 0x3FF0000000000000).toModel.unpack =
        .finite .positive (2 ^ 52) (-52) (by decide) := rfl
    rw [Float.ofScientific, dif_pos ⟨hsmall, by decide⟩]
    change AtLeast 0 (unpack _ (pack _ (mul _ n.toUInt64.toFloat.toModel.unpack
      (Float.ofBits 0x3FF0000000000000).toModel.unpack)))
    rw [hone]
    exact atLeast_unpack_pack (by decide) (atLeast_mul_one (by decide) hfloat _)
  · have hscale : AtLeast 0 (ofScientific Format.binary64 n 0) := by
      have hlog := log2_shiftLeft hn 53
      have hne : n <<< 53 ≠ 0 := by
        rw [Nat.shiftLeft_eq]
        omega
      have hrange : ¬ (0 : Int) < -((2 : Int) ^ 11 + n.log2) := by omega
      have hround : ofScientific Format.binary64 n 0 =
          roundWithAccuracy Format.binary64 .positive (n <<< 53) (-53) .exact := by
        simp only [ofScientific, hn, dite_false]
        rw [if_neg (by decide), if_neg hrange, if_pos (by decide)]
        simp only [mul, Int.toNat_zero, Nat.pow_zero, Nat.mul_one, Int.add_zero]
        rfl
      rw [hround]
      exact atLeast_roundWithAccuracy (by decide) (by omega) hne (by omega) .exact
    rw [Float.ofScientific, dif_neg fun h => hsmall h.1]
    exact atLeast_unpack_pack (by decide) hscale

/-- A number of nanoseconds that is not too small is no small number of seconds. -/
theorem atLeast_div_nanosPerSec (ht : -900 ≤ t) (h : AtLeast t x.toModel.unpack) :
    AtLeast (t - 30) (x / Scalar.ofNat Time.nanosPerSec).toModel.unpack := by
  -- A thousand million has 30 digits, which are moved up to have 53.
  have hnanos : (Scalar.ofNat Time.nanosPerSec : Float).toModel.unpack =
      .finite .positive 8388608000000000 (-23) (by decide) := rfl
  change AtLeast (t - 30) (unpack _ (pack _ (div Format.binary64 x.toModel.unpack
    (Scalar.ofNat Time.nanosPerSec : Float).toModel.unpack)))
  rw [hnanos]
  refine atLeast_unpack_pack (by omega) ?_
  generalize x.toModel.unpack = u at h
  cases h with
  | infinity =>
      exact .infinity
  | @finite m e pos lower upper large =>
      have hlog : m.log2 = 52 := log2_eq lower upper
      have hnanosLog : Nat.log2 8388608000000000 = 52 := by decide +kernel
      -- The quotient is taken with 53 digits more than the number has.
      have hcore : divCore Format.binary64 m e 8388608000000000 (-23) =
          (m <<< 53 / 8388608000000000, e - 30,
            accuracyOfFraction (m <<< 53 % 8388608000000000) 8388608000000000) := by
        have htarget : min (e - -23) (Format.binary64.targetExponent
            (totalExponent m e - totalExponent 8388608000000000 (-23))) = e - 30 := by
          simp only [Format.targetExponent, totalExponent, Format.mantissaBits, Format.minExponent,
            hlog, hnanosLog]
          omega
        have hshift : (e - -23 - (e - 30)).toNat = 53 := by omega
        simp only [divCore, htarget, hshift]
      have hquotient : 2 ^ 52 ≤ m <<< 53 / 8388608000000000 := by
        rw [Nat.shiftLeft_eq]
        omega
      have hne : m <<< 53 / 8388608000000000 ≠ 0 := by omega
      have hdigits : 52 ≤ (m <<< 53 / 8388608000000000).log2 :=
        (Nat.le_log2 hne).2 hquotient
      simp only [div, hcore]
      exact atLeast_roundWithAccuracy (by omega) (by omega) hne hdigits _

theorem log2_mono {m n : Nat} (hm : m ≠ 0) (h : m ≤ n) : m.log2 ≤ n.log2 :=
  (Nat.le_log2 (by omega)).2 (Nat.le_trans (Nat.log2_self_le hm) h)

/-- Adding what is not negative makes no number smaller. -/
theorem atLeast_add {u v : UnpackedFloat} {t' : Int} (ht : -1022 ≤ t) (h : AtLeast t u)
    (h' : AtLeast t' v) : AtLeast t (add Format.binary64 u v) := by
  cases h with
  | infinity =>
      cases h' <;> exact .infinity
  | @finite m e pos lower upper large =>
      cases h' with
      | infinity =>
          exact .infinity
      | @finite m' e' pos' lower' upper' large' =>
          let low := min e e'
          have hlog := log2_shiftLeft (Nat.ne_of_gt pos) (e - low).toNat
          have hlog' : m.log2 = 52 := log2_eq lower upper
          have hne : m <<< (e - low).toNat ≠ 0 := by
            rw [Nat.shiftLeft_eq]
            exact Nat.mul_ne_zero (Nat.ne_of_gt pos) (Nat.ne_of_gt (Nat.two_pow_pos _))
          have hmono := log2_mono hne (Nat.le_add_right _ (m' <<< (e' - low).toNat))
          have hsum : m <<< (e - low).toNat + m' <<< (e' - low).toNat ≠ 0 :=
            fun h => hne (Nat.add_eq_zero_iff.1 h).1
          have hadd : add Format.binary64 (.finite .positive m e pos)
              (.finite .positive m' e' pos') =
                UnpackedFloat.round Format.binary64 .positive
                  (m <<< (e - low).toNat + m' <<< (e' - low).toNat) low := by
            have hcompare : compare
                ((m <<< (e - low).toNat : Nat) + (m' <<< (e' - low).toNat : Nat) : Int) 0 = .gt :=
              Int.compare_eq_gt.2 (Int.natCast_pos.2 (Nat.pos_of_ne_zero hsum))
            simp only [add, decreaseExponent, Sign.apply, UnpackedFloat.normalize]
            rw [hcompare]
            rfl
          rw [hadd]
          exact atLeast_round ht (by omega) hsum

theorem atLeast_add_zero {u : UnpackedFloat} (h : AtLeast t u) :
    AtLeast t (add Format.binary64 u (.zero .positive)) := by
  cases h with
  | infinity => exact .infinity
  | finite lower upper large => exact .finite lower upper large

theorem atLeast_zero_add {u : UnpackedFloat} (h : AtLeast t u) :
    AtLeast t (add Format.binary64 (.zero .positive) u) := by
  cases h with
  | infinity => exact .infinity
  | finite lower upper large => exact .finite lower upper large

end Binary64

namespace Time

open Binary64

/-- The smallest time is a thousand millionth of a second, and no other is less. -/
theorem atLeast_toSeconds {t : Time} (h : t.nanoseconds ≠ 0) :
    AtLeast (-30) (t.toSeconds : Float).toModel.unpack := by
  have hsplit : t.nanoseconds = t.secs * 1000000000 + t.nanos :=
    (Nat.div_add_mod' t.nanoseconds 1000000000).symm
  have hnoSecs : (Scalar.ofNat 0 : Float).toModel.unpack = .zero .positive := rfl
  have hnoNanos : ((Scalar.ofNat 0 : Float) / Scalar.ofNat nanosPerSec).toModel.unpack =
      .zero .positive := rfl
  refine atLeast_unpack_pack (by decide) ?_
  change AtLeast (-30) (Float.Model.UnpackedFloat.add _ (Scalar.ofNat t.secs : Float).toModel.unpack
    ((Scalar.ofNat t.nanos : Float) / Scalar.ofNat nanosPerSec).toModel.unpack)
  by_cases hnanos : t.nanos = 0
  · have hsecs : t.secs ≠ 0 := by omega
    rw [hnanos, hnoNanos]
    exact atLeast_add_zero ((atLeast_ofNat hsecs).mono (by decide))
  · have hpart := atLeast_div_nanosPerSec (by decide) (atLeast_ofNat hnanos)
    by_cases hsecs : t.secs = 0
    · rw [hsecs, hnoSecs]
      exact atLeast_zero_add hpart
    · exact atLeast_add (by decide) ((atLeast_ofNat hsecs).mono (by decide)) hpart

theorem isZero_toSeconds {t : Time} (h : t.nanoseconds ≠ 0) :
    Scalar.isZero (t.toSeconds : Float) = false :=
  isZero_eq_false (atLeast_toSeconds h)

end Time
end WindowRelay

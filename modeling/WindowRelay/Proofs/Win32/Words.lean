import WindowRelay.Win32.Window

/-!
# Words — what a message tells in its low bits

The parameters of a message have machine size, and of 64 bits the upper 32 tell nothing.  The lower
ones are two halves, each a signed number of 16 bits where the message tells a position or an
amount.

- `loSigned_bounds`, `hiSigned_bounds`: which numbers the halves can be.
- `loSigned_packPosition`, `hiSigned_packPosition`: two such numbers, packed and read again.
- `Message.SameLow`: messages that differ in their upper bits are handled alike.
- `screenPoint_cases`: how far away a window has to be for a position to be lost.
-/

namespace WindowRelay
namespace Win32

/-! ## Halves -/

theorem loSigned_bounds (x : UInt32) : -32768 ≤ loSigned x ∧ loSigned x ≤ 32767 := by
  have hlow := (loWord x).toInt16.le_toInt
  have hhigh := (loWord x).toInt16.toInt_lt
  unfold loSigned
  omega

theorem hiSigned_bounds (x : UInt32) : -32768 ≤ hiSigned x ∧ hiSigned x ≤ 32767 := by
  have hlow := (hiWord x).toInt16.le_toInt
  have hhigh := (hiWord x).toInt16.toInt_lt
  unfold hiSigned
  omega

theorem toNat_loWord (x : UInt32) : (loWord x).toNat = x.toNat % 65536 :=
  UInt32.toNat_toUInt16 x

theorem toNat_hiWord (x : UInt32) : (hiWord x).toNat = x.toNat / 65536 % 65536 := by
  have hshift : (x >>> 16).toNat = x.toNat / 65536 :=
    (UInt32.toNat_shiftRight ..).trans (Nat.shiftRight_eq_div_pow _ 16)
  rw [hiWord, UInt32.toNat_toUInt16, hshift]

theorem toNat_packWord (lo hi : UInt16) :
    (packWord lo hi).toNat = hi.toNat * 65536 + lo.toNat := by
  have hlo : lo.toNat < 65536 := lo.toNat_lt
  have hhi : hi.toNat < 65536 := hi.toNat_lt
  have hshift : (hi.toUInt32 <<< 16).toNat = hi.toNat <<< 16 := by
    have hfits : hi.toNat <<< 16 < 4294967296 := by
      rw [Nat.shiftLeft_eq]
      omega
    exact (UInt32.toNat_shiftLeft ..).trans (Nat.mod_eq_of_lt hfits)
  calc
    (packWord lo hi).toNat = hi.toNat <<< 16 ||| lo.toNat := by
          rw [packWord, UInt32.toNat_or, hshift, UInt16.toNat_toUInt32]
    _ = hi.toNat <<< 16 + lo.toNat := (Nat.shiftLeft_add_eq_or_of_lt hlo hi.toNat).symm
    _ = hi.toNat * 65536 + lo.toNat := by rw [Nat.shiftLeft_eq]

theorem loWord_packWord (lo hi : UInt16) : loWord (packWord lo hi) = lo := by
  have hlo : lo.toNat < 65536 := lo.toNat_lt
  apply UInt16.toNat_inj.1
  rw [toNat_loWord, toNat_packWord]
  omega

theorem hiWord_packWord (lo hi : UInt16) : hiWord (packWord lo hi) = hi := by
  have hlo : lo.toNat < 65536 := lo.toNat_lt
  have hhi : hi.toNat < 65536 := hi.toNat_lt
  apply UInt16.toNat_inj.1
  rw [toNat_hiWord, toNat_packWord]
  omega

/-- A position as a message packs it. -/
def packPosition (x y : Int16) : UInt32 :=
  packWord x.toUInt16 y.toUInt16

theorem loSigned_packPosition (x y : Int16) : loSigned (packPosition x y) = x.toInt := by
  rw [loSigned, packPosition, loWord_packWord]
  rfl

theorem hiSigned_packPosition (x y : Int16) : hiSigned (packPosition x y) = y.toInt := by
  rw [hiSigned, packPosition, hiWord_packWord]
  rfl

/-! ## Upper bits -/

/-- Two messages that differ in no more than the upper bits of their parameters. -/
structure Message.SameLow (m m' : Message) : Prop where
  number : m.number = m'.number
  wParam : m.wParam32 = m'.wParam32
  lParam : m.lParam32 = m'.lParam32
  time : m.time = m'.time

namespace Window

variable {K : Type} [Scalar K] {w : Window K} {m m' : Message}

theorem clientPoint_sameLow (h : m.SameLow m') : w.clientPoint m = w.clientPoint m' := by
  rw [clientPoint, clientPoint, h.lParam]

theorem screenPoint_sameLow (h : m.SameLow m') : w.screenPoint m = w.screenPoint m' := by
  simp only [screenPoint, h.lParam]

theorem buttonOf?_sameLow (h : m.SameLow m') (b : NativeButton) :
    buttonOf? b m = buttonOf? b m' := by
  simp only [buttonOf?, h.wParam]

theorem handleKind_sameLow (h : m.SameLow m') (kind : MessageKind) :
    (handleKind m kind : Act K (Window K) _) = handleKind m' kind := by
  cases kind with
  | mouseMove => simp only [handleKind, clientPoint_sameLow h]
  | button b t => simp only [handleKind, mouseButton, clientPoint_sameLow h, buttonOf?_sameLow h]
  | mouseWheel | mouseHWheel =>
      simp only [handleKind, mouseWheel, screenPoint_sameLow h, h.wParam, h.time]
  | move => simp only [handleKind, h.lParam]
  | dpiChanged => simp only [handleKind, h.wParam]
  | _ => rfl

theorem step_message_sameLow (h : m.SameLow m') :
    (step (.message m) : Act K (Window K) _) = step (.message m') := by
  simp only [step, handle, h.number, handleKind_sameLow h]

theorem step_hitTest_sameLow (h : m.SameLow m') (defaultHit : Int) :
    (step (.hitTest m defaultHit) : Act K (Window K) _) = step (.hitTest m' defaultHit) := by
  simp only [step, hitTest, screenPoint_sameLow h]

/-! ## Positions on the screen -/

theorem screenPoint_eq {x y : Int} (hx : loSigned m.lParam32 = w.clientOrigin.1 + x)
    (hy : hiSigned m.lParam32 = w.clientOrigin.2 + y)
    (short : x.natAbs ≤ 32768 ∧ y.natAbs ≤ 32768) :
    w.screenPoint m = .ok (w.toLogical x y) := by
  have hleft : loSigned m.lParam32 - w.clientOrigin.1 = x := by omega
  have htop : hiSigned m.lParam32 - w.clientOrigin.2 = y := by omega
  have hbound : Int.pow 2 31 = 2147483648 := rfl
  have hfits : isPixelDistance x = true ∧ isPixelDistance y = true := by
    simp only [isPixelDistance, hbound, decide_eq_true_eq]
    omega
  simp only [screenPoint, hleft, htop, hfits, Bool.and_self, if_true]

theorem screenPoint_error (far : (isPixelDistance (loSigned m.lParam32 - w.clientOrigin.1) &&
    isPixelDistance (hiSigned m.lParam32 - w.clientOrigin.2)) = false) :
    w.screenPoint m = .error .pixelOverflow :=
  if_neg (ne_true_of_eq_false far)

/-- Only a window that is some two thousand million pixels away loses a position. -/
theorem screenPoint_cases (w : Window K) (m : Message) :
    (∃ p, w.screenPoint m = .ok p) ∨ w.screenPoint m = .error .pixelOverflow ∧
      (2147450880 < w.clientOrigin.1.natAbs ∨ 2147450880 < w.clientOrigin.2.natAbs) := by
  have hx := loSigned_bounds m.lParam32
  have hy := hiSigned_bounds m.lParam32
  have hbound : Int.pow 2 31 = 2147483648 := rfl
  cases hfits : isPixelDistance (loSigned m.lParam32 - w.clientOrigin.1) &&
      isPixelDistance (hiSigned m.lParam32 - w.clientOrigin.2) with
  | true => exact .inl ⟨_, if_pos hfits⟩
  | false =>
      refine .inr ⟨screenPoint_error hfits, ?_⟩
      simp only [isPixelDistance, hbound, Bool.and_eq_false_iff, decide_eq_false_iff_not] at hfits
      omega

end Window
end Win32
end WindowRelay

import WindowRelay.AppKit.Window
import WindowRelay.Codec.Event
import WindowRelay.Proofs.Exact
import WindowRelay.Proofs.Relay.DragButtons
import WindowRelay.Proofs.Relay.HeldButtons

/-!
# Button range — where buttons come from, and which of them a set tells apart

A set of buttons has 32 bits, one for each of the buttons with an index up to 31.  The toolkits
make no other buttons, and then the sets of a window and of its drag tell of each button by itself
whether it is held.  A button that is read from a stored value may have any index that a byte has.

- `MouseButton.Tracked`: the buttons that a set tells apart.
- `IsHeld`: by the news, this very button is down.
- `buttons_are_told_apart`: the origins of buttons, and the sets of a life with tracked buttons.
- `stored_button_is_out_of_range`: a button that nothing but a stored value can name.
-/

namespace WindowRelay

namespace MouseButton

/-! ## Buttons with a bit of their own -/

def Tracked (b : MouseButton) : Prop :=
  b.index.toNat ≤ maxIndex

instance (b : MouseButton) : Decidable b.Tracked :=
  inferInstanceAs (Decidable (b.index.toNat ≤ maxIndex))

/-- The button whose bit is `n`. -/
def ofPosition (n : Fin 32) : MouseButton :=
  ⟨UInt8.ofNat n⟩

/-- The bit of a tracked button is its index. -/
theorem Tracked.position {b : MouseButton} (h : b.Tracked) :
    (Bit.position b : Nat) = b.index.toNat :=
  Nat.mod_eq_of_lt (Nat.lt_succ_of_le h)

theorem Tracked.eq_ofPosition_iff {b : MouseButton} (h : b.Tracked) (n : Fin 32) :
    b = ofPosition n ↔ Bit.position b = n := by
  have hsmall : (n : Nat) < 256 := Nat.lt_trans n.isLt (by decide)
  have hindex : (ofPosition n).index.toNat = n := by
    simp [ofPosition, Nat.mod_eq_of_lt hsmall]
  rw [Fin.ext_iff, h.position]
  constructor
  · intro hb
    rw [hb, hindex]
  · intro hb
    have hsame : b.index = (ofPosition n).index := UInt8.toNat.inj (hb.trans hindex.symm)
    cases b
    exact congrArg MouseButton.mk hsame

/-- No two tracked buttons share a bit. -/
theorem Tracked.position_injective {b b' : MouseButton} (h : b.Tracked) (h' : b'.Tracked)
    (same : Bit.position b = Bit.position b') : b = b' := by
  rw [(h.eq_ofPosition_iff _).2 same]
  exact ((h'.eq_ofPosition_iff _).2 rfl).symm

/-! ## Origins -/

theorem tracked_of_ofIndex {n : Nat} {b : MouseButton} (h : ofIndex? n = some b) :
    b.Tracked ∧ b.index.toNat = n := by
  unfold ofIndex? at h
  split at h
  · rename_i hle
    cases h
    have hsmall : n < 256 := Nat.lt_of_le_of_lt hle (by decide)
    have hindex : (UInt8.ofNat n).toNat = n := by
      simp [Nat.mod_eq_of_lt hsmall]
    exact ⟨Nat.le_trans (Nat.le_of_eq hindex) hle, hindex⟩
  · cases h

end MouseButton

theorem Gtk.tracked_of_buttonOfNumber {n : Nat} {b : MouseButton}
    (h : buttonOfNumber? n = some b) : b.Tracked := by
  unfold buttonOfNumber? at h
  split at h
  case h_11 => exact (MouseButton.tracked_of_ofIndex h).1
  all_goals
    cases h <;> decide

theorem Win32.Window.tracked_of_buttonOf {native : NativeButton} {m : Message} {b : MouseButton}
    (h : buttonOf? native m = some b) : b.Tracked := by
  cases native with
  | left | right | middle =>
      cases h
      decide
  | extended =>
      simp only [buttonOf?] at h
      split at h
      · cases h
        decide
      · split at h <;> cases h
        decide

/-- The buttons that are named, made from an index, or made from what a toolkit says.  An AppKit
window makes its buttons from the index that it is told. -/
inductive MouseButton.Made : MouseButton → Prop
  | named {b : MouseButton} (h : b ∈ [left, right, middle, back, forward]) : Made b
  | index {n : Nat} {b : MouseButton} (h : ofIndex? n = some b) : Made b
  | gtk {n : Nat} {b : MouseButton} (h : Gtk.buttonOfNumber? n = some b) : Made b
  | win32 {native : Win32.NativeButton} {m : Win32.Message} {b : MouseButton}
      (h : Win32.Window.buttonOf? native m = some b) : Made b

/-- What is made is tracked, and every tracked button can be made. -/
theorem MouseButton.made_iff {b : MouseButton} : b.Made ↔ b.Tracked := by
  constructor
  · intro h
    cases h with
    | named h =>
        have hall : ∀ b ∈ [left, right, middle, back, forward], b.Tracked := by
          decide
        exact hall b h
    | index h => exact (tracked_of_ofIndex h).1
    | gtk h => exact Gtk.tracked_of_buttonOfNumber h
    | win32 h => exact Win32.Window.tracked_of_buttonOf h
  · intro h
    have hindex : ofIndex? b.index.toNat = some b := by
      have hle : b.index.toNat ≤ maxIndex := h
      rw [ofIndex?, if_pos hle, UInt8.ofNat_toNat]
    exact .index hindex

/-! ## Stored buttons -/

theorem decode_byte {v : Value} {n : UInt8} :
    (Coded.decode? v : Option UInt8) = some n ↔ v = .int n.toNat := by
  have hlimit : Nat.pow 2 8 = 256 := rfl
  constructor
  · intro h
    rcases Option.map_eq_some_iff.1 h with ⟨m, hm, rfl⟩
    unfold Value.toNat? at hm
    split at hm
    · split at hm
      · rename_i hsmall
        cases hm
        simp [Nat.mod_eq_of_lt (hlimit ▸ hsmall)]
      · cases hm
    · cases hm
  · rintro rfl
    have hsmall : n.toNat < Nat.pow 2 8 := n.toNat_lt
    have hread : (Value.int n.toNat).toNat? (Nat.pow 2 8) = some n.toNat := if_pos hsmall
    simp [Coded.decode?, hread]

/-- A button is read from its index, and every byte is one. -/
theorem MouseButton.decode_eq_some {v : Value} {b : MouseButton} :
    (Coded.decode? v : Option MouseButton) = some b ↔ v = .int b.index.toNat := by
  rw [← decode_byte]
  constructor
  · intro h
    rcases Option.map_eq_some_iff.1 h with ⟨n, hn, rfl⟩
    exact hn
  · intro h
    exact Option.map_eq_some_iff.2 ⟨b.index, h, rfl⟩

/-- A button that was read is tracked if and only if the number that was stored is. -/
theorem MouseButton.tracked_of_stored {v : Value} {b : MouseButton}
    (h : (Coded.decode? v : Option MouseButton) = some b) :
    b.Tracked ↔ ∃ n : Nat, n ≤ maxIndex ∧ v = .int n := by
  rw [decode_eq_some] at h
  subst h
  constructor
  · intro hb
    exact ⟨b.index.toNat, hb, rfl⟩
  · rintro ⟨n, hn, hv⟩
    cases hv
    exact hn

theorem Activation.decode_encode (a : Activation) :
    (Coded.decode? (Coded.encode a) : Option Activation) = some a := by
  cases a <;> rfl

/-- Every pointer event can be stored and read again, whatever its button is. -/
theorem PointerEvent.decode_encode (e : PointerEvent Float) :
    (Coded.decode? (Coded.encode e) : Option (PointerEvent Float)) = some e := by
  rcases e with ⟨⟨x, y⟩, button, pressed, activation⟩
  have hactivation := Activation.decode_encode activation
  have hbutton : Value.optional? (some (Value.ofOption button)) = some button := by
    cases button with
    | none => rfl
    | some b =>
        have hread : (Coded.decode? (Coded.encode b) : Option MouseButton) = some b :=
          MouseButton.decode_eq_some.2 rfl
        exact congrArg (Option.map some) hread
  calc (Coded.decode? (Coded.encode (PointerEvent.mk ⟨x, y⟩ button pressed activation)) :
          Option (PointerEvent Float))
      = (do
          let button ← Value.optional? (some (Value.ofOption button))
          let activation ← (Coded.decode? (Coded.encode activation) : Option Activation)
          pure ⟨⟨x, y⟩, button, pressed, activation⟩) := rfl
    _ = some ⟨⟨x, y⟩, button, pressed, activation⟩ := by
        rw [hbutton, hactivation]
        rfl

/-! ## The buttons that are held -/

/-- By the news, this very button is down. -/
def IsHeld (b : MouseButton) (news : List ButtonNews) : Prop :=
  Since (fun x => x = .button true b) (fun x => x = .button false b ∨ x = .forgotten) news

theorem isDown_iff_isHeld {news : List ButtonNews}
    (tracked : ∀ pressed b, .button pressed b ∈ news → b.Tracked) (n : Fin 32) :
    IsDown n news ↔ IsHeld (.ofPosition n) news := by
  refine since_congr (fun x hx => ?_) fun x hx => ?_
  · cases x with
    | forgotten => simp [ButtonNews.Presses]
    | button pressed b =>
        have hb := (tracked pressed b hx).eq_ofPosition_iff n
        cases pressed <;> simp [ButtonNews.Presses, hb]
  · cases x with
    | forgotten => simp [ButtonNews.Frees]
    | button pressed b =>
        have hb := (tracked pressed b hx).eq_ofPosition_iff n
        cases pressed <;> simp [ButtonNews.Frees, hb]

namespace Relay

variable {K : Type}

/-- The turns whose pointer events name tracked buttons only. -/
def Turn.Tracked (t : Turn K) : Prop :=
  ∀ e b, t = .call (.pointer e) → e.button = some b → b.Tracked

theorem tracked_news {turns : List (Turn K)} (tracked : ∀ t ∈ turns, t.Tracked) {pressed : Bool}
    {b : MouseButton} (h : .button pressed b ∈ turns.filterMap Turn.news?) : b.Tracked := by
  rcases List.mem_filterMap.1 h with ⟨t, ht, hnews⟩
  rcases Turn.eq_of_news hnews with ⟨-, hforgotten⟩ | ⟨e, b', hturn, -, hbutton, hsame⟩
  · cases hforgotten
  · cases hsame
    exact tracked t ht e b hturn hbutton

section Lives

variable [Scalar K] (handle : WindowHandle) (attributes : Attributes K) (listener : Listener K)
  {turns : List (Turn K)}

/-- The drag that is open holds what the window holds. -/
theorem buttons_eq_pressed {s : DragSession}
    (isOpen : (live handle attributes listener turns).state.arbiter.drag.session = some s) :
    s.buttons = (live handle attributes listener turns).state.pressed := by
  let r := (live handle attributes listener turns).state
  have hheld : r.dispatcher.attached = true ∧ r.attributes.dragGestures = true := by
    cases hline : r.dispatcher.attached with
    | false =>
        have hcoherent := coherent_live handle attributes listener turns
        have hnone := (Arbiter.openSlots_eq_zero.1 (hcoherent.hushed hline)).1
        exact nomatch hnone.symm.trans isOpen
    | true =>
        cases hon : r.attributes.dragGestures with
        | false =>
            have hnone := (inStep_live handle attributes listener turns).off hon
            exact nomatch hnone.symm.trans isOpen
        | true => exact ⟨rfl, rfl⟩
  exact (drag_live handle attributes listener turns hheld.1 hheld.2).1 s isOpen

/-- With tracked buttons, every bit of the set says whether one button is held. -/
theorem pressed_tracked (tracked : ∀ t ∈ turns, t.Tracked) (n : Fin 32) :
    (live handle attributes listener turns).state.pressed.bits.getLsbD n = true ↔
      IsHeld (.ofPosition n) (turns.filterMap Turn.news?) := by
  rw [pressed_live]
  exact isDown_iff_isHeld (fun _ _ h => tracked_news tracked h) n

end Lives

end Relay

/-- The library makes the tracked buttons and no others, each of which has the bit of its index for
itself.  A stored value gives any button that it names, and any event with it.  As long as a window
is told of tracked buttons, its set and that of its drag tell of each button whether it is held. -/
theorem buttons_are_told_apart {K : Type} [Scalar K] :
    (∀ b : MouseButton, b.Made ↔ b.Tracked) ∧
      (∀ b b' : MouseButton, b.Tracked → b'.Tracked →
        (Bit.position b : Nat) = b.index.toNat ∧
          (Bit.position b = Bit.position b' → b = b')) ∧
      (∀ (v : Value) (b : MouseButton), Coded.decode? v = some b →
        (b.Tracked ↔ ∃ n : Nat, n ≤ MouseButton.maxIndex ∧ v = .int n)) ∧
      (∀ e : PointerEvent Float, Coded.decode? (Coded.encode e) = some e) ∧
      ∀ (handle : WindowHandle) (attributes : Attributes K) (listener : Listener K)
        (turns : List (Relay.Turn K)), (∀ t ∈ turns, t.Tracked) →
        let r := (Relay.live handle attributes listener turns).state
        let happened := turns.filterMap Relay.Turn.news?
        ∀ n : Fin 32,
          (r.pressed.bits.getLsbD n = true ↔ IsHeld (.ofPosition n) happened) ∧
            ∀ s, r.arbiter.drag.session = some s →
              (s.buttons.bits.getLsbD n = true ↔ IsHeld (.ofPosition n) happened) := by
  refine ⟨fun b => MouseButton.made_iff, fun b b' hb hb' => ⟨hb.position, ?_⟩,
    fun v b => MouseButton.tracked_of_stored, PointerEvent.decode_encode, ?_⟩
  · exact hb.position_injective hb'
  · intro handle attributes listener turns tracked r happened n
    have hpressed := Relay.pressed_tracked handle attributes listener tracked n
    refine ⟨hpressed, fun s isOpen => ?_⟩
    rw [Relay.buttons_eq_pressed handle attributes listener isOpen]
    exact hpressed

/-- The last button goes down, and the first one goes down and up. -/
theorem buttons_are_told_apart_at_both_ends :
    let turns : List (Relay.Turn Rat) :=
      [.call (.pointer (.press ⟨1, 1⟩ ⟨31⟩)), .call (.pointer (.press ⟨1, 1⟩ .left)),
        .call (.pointer (.release ⟨1, 1⟩ .left))]
    let r := (Relay.live (.detached ⟨1⟩) Attributes.standard Listener.deaf turns).state
    (∀ t ∈ turns, t.Tracked) ∧ IsHeld ⟨31⟩ (turns.filterMap Relay.Turn.news?) ∧
      ¬ IsHeld .left (turns.filterMap Relay.Turn.news?) ∧
      r.pressed.bits.getLsbD 31 = true ∧ r.pressed.bits.getLsbD 0 = false := by
  intro turns r
  have htracked : ∀ t ∈ turns, t.Tracked := by
    intro t ht e b hturn hbutton
    simp only [turns, List.mem_cons, List.not_mem_nil, or_false] at ht
    rcases ht with rfl | rfl | rfl <;> cases hturn <;> cases hbutton <;> decide
  have h := buttons_are_told_apart.2.2.2.2 (.detached ⟨1⟩) (Attributes.standard (K := Rat))
    Listener.deaf turns htracked
  have hlast : r.pressed.bits.getLsbD 31 = true := by
    decide +kernel
  have hleft : r.pressed.bits.getLsbD 0 = false := by
    decide +kernel
  refine ⟨htracked, (h 31).1.1 hlast, fun hheld => ?_, hlast, hleft⟩
  exact Bool.false_ne_true (hleft.symm.trans ((h 0).1.2 hheld))

/-- A stored event may press the button 32, for which a set has no bit. -/
theorem stored_button_is_out_of_range :
    let e : PointerEvent Float := .press ⟨0, 0⟩ ⟨32⟩
    (Coded.decode? (Coded.encode e) : Option (PointerEvent Float)) = some e ∧
      e.button = some ⟨32⟩ ∧ ¬ (⟨32⟩ : MouseButton).Tracked ∧ ¬ (⟨32⟩ : MouseButton).Made := by
  intro e
  have hrange : ¬ (⟨32⟩ : MouseButton).Tracked := by
    decide
  exact ⟨PointerEvent.decode_encode e, rfl, hrange, fun h => hrange (MouseButton.made_iff.1 h)⟩

end WindowRelay

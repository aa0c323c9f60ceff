import WindowRelay.Proofs.Exact
import WindowRelay.Proofs.Relay.PointerInput
import WindowRelay.Proofs.Win32.Words

/-!
# Buttons — how the messages of the mouse buttons are answered

Twelve messages tell of a mouse button: it goes down, is let go of, or goes down for a double click.
Each has its own number, but the extended buttons share theirs and are told apart by the first
parameter.  The second parameter tells where in the client area the pointer was.

- `buttonNumber`: the numbers of the twelve messages.
- `Message.Names`: the button that a message names, if it is one of the known ones.
- `Message.x`, `Message.y`: the position in pixels, read off the second parameter as a whole.
- `Window.button_messages_are_told_once`: what a message of a button tells, and what its answer is.
- `Window.unknown_button_is_answered_zero`: the messages of the extended buttons are answered with
  one, but not if the button is unknown.
-/

namespace WindowRelay

namespace Effect

variable {K : Type}

/-- What the listener hears of buttons. -/
def mouseButtons (es : List (Effect K)) : List (Point K × Bool × MouseButton) :=
  (callbacks es).filterMap Callback.mouseButton?

theorem mouseButtons_eq (es : List (Effect K)) :
    mouseButtons es = (reports es).filterMap PointerReport.button? := by
  simp only [mouseButtons, reports, List.filterMap_filterMap, ← Callback.mouseButton?_eq]

end Effect

/-- A press or a release is told to an attached listener once, in every state of the relay. -/
theorem Relay.mouseButtons_pointer {K : Type} {e : PointerEvent K} {b : MouseButton}
    (primary : e.primary? = some e) (button : e.button = some b) (r : Relay K) :
    Effect.mouseButtons ((pointer e).run r).effects =
      if r.dispatcher.attached then [(e.position, e.pressed, b)] else [] := by
  rw [Effect.mouseButtons_eq, reports_pointer_eq, primary, Option.elim_some,
    Arbiter.reports_pointer_button button, Arbiter.attached_settleLifted]
  cases hline : r.arbiter.dispatcher.attached <;> simp [dispatcher, hline, PointerReport.button?]

namespace Win32

/-! ## What a message says -/

/-- The messages of a button follow one another, and those of the extended buttons come behind the
wheel. -/
def buttonNumber (b : NativeButton) (t : ButtonTransition) : UInt32 :=
  let first : UInt32 :=
    match b with
    | .left => 0x0201
    | .right => 0x0204
    | .middle => 0x0207
    | .extended => 0x020B
  match t with
  | .down => first
  | .up => first + 1
  | .doubleClick => first + 2

theorem ofNumber?_buttonNumber (b : NativeButton) (t : ButtonTransition) :
    MessageKind.ofNumber? (buttonNumber b t) = some (.button b t) := by
  cases b <;> cases t <;> rfl

namespace Message

variable {m : Message}

/-- The upper half of what is looked at of the first parameter. -/
def extendedNumber (m : Message) : Nat :=
  m.wParam.toNat / 65536 % 65536

inductive Names (m : Message) : NativeButton → MouseButton → Prop
  | left : Names m .left .left
  | right : Names m .right .right
  | middle : Names m .middle .middle
  | back (first : m.extendedNumber = 1) : Names m .extended .back
  | forward (second : m.extendedNumber = 2) : Names m .extended .forward

/-- The signed number in the lowest 16 bits of the second parameter. -/
def x (m : Message) : Int :=
  m.lParam.toInt.bmod 65536

/-- The signed number in the next 16 bits. -/
def y (m : Message) : Int :=
  (m.lParam.toInt / 65536).bmod 65536

theorem toNat_hiWord_wParam32 (m : Message) : (hiWord m.wParam32).toNat = m.extendedNumber := by
  have hlow : m.wParam32.toNat = m.wParam.toNat % 4294967296 := UInt64.toNat_toUInt32 _
  rw [toNat_hiWord, hlow, extendedNumber]
  omega

theorem names_iff {b : NativeButton} {button : MouseButton} :
    m.Names b button ↔ Window.buttonOf? b m = some button := by
  have hword (n : UInt16) : hiWord m.wParam32 = n ↔ m.extendedNumber = n.toNat := by
    rw [← toNat_hiWord_wParam32, UInt16.toNat_inj]
  have hfirst : hiWord m.wParam32 = 1 ↔ m.extendedNumber = 1 := hword 1
  have hsecond : hiWord m.wParam32 = 2 ↔ m.extendedNumber = 2 := hword 2
  constructor
  · rintro (_ | _ | _ | first | second)
    · rfl
    · rfl
    · rfl
    · simp [Window.buttonOf?, hfirst, first]
    · simp [Window.buttonOf?, hfirst, hsecond, second]
  · intro h
    cases b with
    | left =>
        cases h
        exact .left
    | right =>
        cases h
        exact .right
    | middle =>
        cases h
        exact .middle
    | extended =>
        simp only [Window.buttonOf?, hfirst, hsecond] at h
        split at h
        · cases h
          exact .back ‹_›
        · split at h
          · cases h
            exact .forward ‹_›
          · cases h

/-- All buttons are known but for extended ones with other numbers. -/
theorem exists_names_iff {b : NativeButton} :
    (∃ button, m.Names b button) ↔
      (b = .extended → m.extendedNumber = 1 ∨ m.extendedNumber = 2) := by
  constructor
  · rintro ⟨_, _ | _ | _ | first | second⟩ hextended
    · cases hextended
    · cases hextended
    · cases hextended
    · exact .inl first
    · exact .inr second
  · intro h
    cases b with
    | left => exact ⟨_, .left⟩
    | right => exact ⟨_, .right⟩
    | middle => exact ⟨_, .middle⟩
    | extended =>
        rcases h rfl with first | second
        · exact ⟨_, .back first⟩
        · exact ⟨_, .forward second⟩

/-! ## Positions -/

/-- The sign of a number of 16 bits does not depend on what stands above them. -/
theorem toInt_toInt16 {n : UInt16} {z : Int} (h : (n.toNat : Int) % 65536 = z % 65536) :
    n.toInt16.toInt = z.bmod 65536 := by
  have hword : n.toInt16.toInt = (n.toNat : Int).bmod 65536 := BitVec.toInt_eq_toNat_bmod _
  rw [hword, ← Int.emod_bmod, ← Int.emod_bmod z]
  exact congrArg (Int.bmod · 65536) h

/-- The second parameter as an unsigned number.  The two agree in the bits that are looked at. -/
theorem toInt_lParam (m : Message) :
    m.lParam.toInt = m.lParam.toUInt64.toNat ∨
      m.lParam.toInt = m.lParam.toUInt64.toNat - 18446744073709551616 := by
  have hsigned : m.lParam.toInt =
      if 2 * m.lParam.toUInt64.toNat < 2 ^ 64 then (m.lParam.toUInt64.toNat : Int)
      else m.lParam.toUInt64.toNat - (2 ^ 64 : Nat) :=
    BitVec.toInt_eq_toNat_cond _
  split at hsigned
  · exact .inl hsigned
  · exact .inr hsigned

theorem toNat_lParam32 (m : Message) :
    m.lParam32.toNat = m.lParam.toUInt64.toNat % 4294967296 :=
  UInt64.toNat_toUInt32 _

theorem loSigned_lParam32 (m : Message) : loSigned m.lParam32 = m.x := by
  have hlow := toNat_lParam32 m
  have hword := toInt_lParam m
  refine toInt_toInt16 ?_
  rw [toNat_loWord]
  omega

theorem hiSigned_lParam32 (m : Message) : hiSigned m.lParam32 = m.y := by
  have hlow := toNat_lParam32 m
  have hword := toInt_lParam m
  refine toInt_toInt16 ?_
  rw [toNat_hiWord]
  omega

end Message

/-! ## Answers -/

namespace Window

variable {K : Type} [Scalar K] {m : Message} {b : NativeButton} {t : ButtonTransition}

theorem handle_button (number : m.number = buttonNumber b t) :
    (handle m : Act K (Window K) _) = .ok <$> mouseButton b t m := by
  simp only [handle, number, ofNumber?_buttonNumber, handleKind]

/-- A known button is one event of the pointer. -/
theorem run_handle_known (number : m.number = buttonNumber b t) {button : MouseButton}
    (known : m.Names b button) (w : Window K) :
    let e : PointerEvent K := ⟨w.clientPoint m, some button, t.isPress, .primary⟩
    let next := (Relay.pointer e).run w.relay
    (handle m).run w = ⟨.ok (buttonResponse b), { w with relay := next.state }, next.effects⟩ := by
  intro e next
  have hevent : (if t.isPress then .press (w.clientPoint m) button
      else .release (w.clientPoint m) button) = e := by
    cases hpress : t.isPress <;> simp [e, PointerEvent.press, PointerEvent.release, hpress]
  simp only [handle_button number, mouseButton, Message.names_iff.1 known, hevent, relaying,
    Action.run_map, Action.run_bind, Action.run_get, Action.run_within, Action.run_pure,
    List.nil_append, List.append_nil]
  rfl

/-- An unknown button is complained about and comes to nothing else. -/
theorem run_handle_unknown (number : m.number = buttonNumber b t)
    (unknown : ∀ button, ¬ m.Names b button) (w : Window K) :
    (handle m).run w = ⟨.ok (.handled 0), w, [.warning .unknownExtendedButton]⟩ := by
  have hnone : buttonOf? b m = none := by
    refine Option.eq_none_iff_forall_ne_some.2 fun button h => ?_
    exact unknown button (Message.names_iff.2 h)
  simp only [handle_button number, mouseButton, hnone, Action.run_map, Action.run_bind,
    Action.run_get, Act.run_warn, Action.run_pure, List.nil_append, List.append_nil]

/-- A double click is a press: nothing but the number tells them apart. -/
theorem handle_doubleClick (number : m.number = buttonNumber b .doubleClick) :
    (handle m : Act K (Window K) _) = handle { m with number := buttonNumber b .down } := by
  let press : Message := { m with number := buttonNumber b .down }
  have hpress : press.number = buttonNumber b .down := rfl
  rw [handle_button number, handle_button hpress]
  rfl

/-- Whatever state a window is in and whatever the parameters of a message are, a button that is
known is told to an attached listener once and to nobody otherwise, at the position that the
message tells, and the answer goes by the kind of the button.  A message of an extended button that
is not known tells nobody anything and changes nothing, and its answer is zero. -/
theorem button_messages_are_told_once (w : Window K) (m : Message) (b : NativeButton)
    (t : ButtonTransition) (number : m.number = buttonNumber b t) :
    let out := (handle m).run w
    (∀ button, m.Names b button →
      out.value = .ok (.handled (if b = .extended then 1 else 0)) ∧
        Effect.mouseButtons out.effects =
          if w.relay.dispatcher.attached then
            [(⟨Scalar.ofInt m.x / w.scaleFactor, Scalar.ofInt m.y / w.scaleFactor⟩,
              decide (t ≠ .up), button)]
          else []) ∧
      ((∀ button, ¬ m.Names b button) →
        out = ⟨.ok (.handled 0), w, [.warning .unknownExtendedButton]⟩) ∧
      ((∃ button, m.Names b button) ↔
        (b = .extended → m.extendedNumber = 1 ∨ m.extendedNumber = 2)) ∧
      (t = .doubleClick →
        ∀ v : Window K, (handle m).run v =
          (handle { m with number := buttonNumber b .down }).run v) := by
  intro out
  refine ⟨fun button known => ?_, fun unknown => ?_, Message.exists_names_iff, ?_⟩
  · have hpress : t.isPress = decide (t ≠ .up) := by
      cases t <;> rfl
    have hresponse : buttonResponse b = .handled (if b = .extended then 1 else 0) := by
      cases b <;> rfl
    have hplace : w.clientPoint m =
        ⟨Scalar.ofInt m.x / w.scaleFactor, Scalar.ofInt m.y / w.scaleFactor⟩ := by
      rw [clientPoint, Message.loSigned_lParam32, Message.hiSigned_lParam32]
      rfl
    have hout : out = _ := run_handle_known number known w
    rw [hout]
    refine ⟨congrArg Except.ok hresponse, ?_⟩
    rw [← hpress, ← hplace]
    exact Relay.mouseButtons_pointer rfl rfl w.relay
  · exact run_handle_unknown number unknown w
  · rintro rfl v
    rw [handle_doubleClick number]

/-- The second extended button goes down for a double click, to the left of the client area of a
window at one and a half pixels a point.  What stands in the upper bits does not matter. -/
theorem button_messages_are_told_once_of_a_double_click :
    let w : Window Rat := (attach (.detached ⟨1⟩) Attributes.standard Listener.deaf 144).state
    let m : Message := ⟨0x020D, 0xABCD000100020040, 0x12345678FED40006, 7⟩
    let out := (handle m).run w
    m.number = buttonNumber .extended .doubleClick ∧ m.Names .extended .forward ∧
      out.value = .ok (.handled 1) ∧
      Effect.mouseButtons out.effects = [(⟨4, -200⟩, true, .forward)] := by
  intro w m out
  have hnames : m.Names .extended .forward := .forward (by decide)
  have htold := (button_messages_are_told_once w m .extended .doubleClick rfl).1 .forward hnames
  refine ⟨rfl, hnames, htold.1, htold.2.trans ?_⟩
  decide +kernel

/-- The third extended button, which is not known, goes down: its message is answered with zero,
where the messages of the other two are answered with one. -/
theorem unknown_button_is_answered_zero :
    let w : Window Rat := (attach (.detached ⟨1⟩) Attributes.standard Listener.deaf 96).state
    let m : Message := ⟨0x020B, 0x00030000, 0, 0⟩
    m.number = buttonNumber .extended .down ∧ w.relay.dispatcher.attached = true ∧
      ((handle m).run w).value = .ok (.handled 0) ∧
      ((handle m).run w).value ≠ .ok (.handled 1) := by
  intro w m
  have hunknown : ∀ button, ¬ m.Names .extended button := by
    have hnumber : m.extendedNumber = 3 := by decide
    rintro button (_ | _ | _ | first | second)
    · simp [hnumber] at first
    · simp [hnumber] at second
  have hnumber : m.number = buttonNumber .extended .down := rfl
  rw [run_handle_unknown hnumber hunknown w]
  refine ⟨rfl, rfl, rfl, fun h => ?_⟩
  cases h

end Window
end Win32
end WindowRelay

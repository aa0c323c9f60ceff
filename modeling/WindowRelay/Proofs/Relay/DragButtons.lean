import WindowRelay.Gtk.Window
import WindowRelay.Proofs.Gesture.Drags
import WindowRelay.Proofs.Relay.ButtonNews
import WindowRelay.Win32.Window

/-!
# Drag buttons — the drag and the window hold the same buttons

The open drag keeps the buttons that are held down, and so does the relay of the window.  The two
sets are updated in different places: a drag is not told of a press that it knows already, and ends
when its last button is let go of.

- `Slot.held`: the buttons of a drag slot, none if no drag is open.
- `Relay.InStep`: the slot and the relay agree, unless the line is cut or drags are off.
- `Relay.drag_and_window_hold_the_same_buttons`: so a window without a pressed button has no drag
  that the loss of the pointer capture could cancel.
-/

namespace WindowRelay

variable {K : Type}

/-- The buttons that the drag of a slot holds. -/
def Slot.held (slot : Slot DragSession) : ButtonSet :=
  slot.session.elim Mask.empty DragSession.buttons

theorem Slot.held_idle {slot : Slot DragSession} (h : slot.session = none) :
    slot.held = Mask.empty := by
  simp [held, h]

theorem Slot.held_open {slot : Slot DragSession} {s : DragSession} (h : slot.session = some s) :
    slot.held = s.buttons := by
  simp [held, h]

namespace Arbiter

variable {a : Arbiter K}

/-! ## What a drag does with a button -/

theorem held_press (p : Point K) (b : MouseButton) (attached : a.dispatcher.attached = true) :
    ((press p b true).run a).state.drag.held = a.drag.held.insert b := by
  cases hdrag : a.drag.session with
  | none =>
      -- The first button opens the drag, which holds it alone.
      simp only [run_press_first p b hdrag attached, Slot.held_idle hdrag, Mask.insert_empty]
      rfl
  | some s =>
      cases hhas : s.buttons.has b with
      | true =>
          simp only [run_press_again p true hdrag hhas, Slot.held_open hdrag,
            Mask.insert_of_has hhas]
      | false =>
          simp only [run_press_more p true hdrag hhas, Slot.held_open hdrag]
          rfl

theorem held_letGo (a : Arbiter K) (p : Point K) (b : MouseButton) :
    ((letGo p b).run a).state.drag.held = a.drag.held.erase b := by
  cases hdrag : a.drag.session with
  | none =>
      have hnone : (Mask.empty.erase b : ButtonSet) = Mask.empty :=
        Mask.erase_of_not_has (Mask.has_empty b)
      simp only [run_letGo_idle p b hdrag, Slot.held_idle hdrag, hnone]
  | some s =>
      cases hhas : s.buttons.has b with
      | false =>
          simp only [run_letGo_unseen p hdrag hhas, Slot.held_open hdrag,
            Mask.erase_of_not_has hhas]
      | true =>
          cases hlast : (s.buttons.erase b).isEmpty with
          | false =>
              simp only [run_letGo_more p hdrag hhas hlast, Slot.held_open hdrag]
              rfl
          | true =>
              -- The drag is over, and there is no button left that it could hold.
              have hnone : s.buttons.erase b = Mask.empty := Mask.isEmpty_iff.1 hlast
              simp only [run_letGo_last p hdrag hhas hlast, Slot.held_open hdrag, hnone]
              rfl

/-- With drags off no button opens one. -/
theorem idle_press (p : Point K) (b : MouseButton) (h : a.drag.session = none) :
    ((press p b false).run a).state.drag.session = none := by
  simpa [run_press_refused p b h (.inl rfl)] using h

theorem idle_letGo (p : Point K) (b : MouseButton) (h : a.drag.session = none) :
    ((letGo p b).run a).state.drag.session = none := by
  simpa [run_letGo_idle p b h] using h

theorem isActive_drag (a : Arbiter K) : a.isActive .drag = a.drag.session.isSome := by
  cases hdrag : a.drag.session <;> simp [isActive, owner, hdrag]

/-- What is left after settling is the same drag. -/
theorem drag_settleLifted (a : Arbiter K) : (settleLifted.run a).state.drag = a.drag :=
  congrArg Prod.fst (keeps_settleLifted a)

end Arbiter

namespace Relay

/-! ## The two sets agree -/

structure InStep (r : Relay K) : Prop where
  agree : r.dispatcher.attached = true → r.attributes.dragGestures = true →
    r.arbiter.drag.held = r.pressed
  off : r.attributes.dragGestures = false → r.arbiter.drag.session = none

theorem InStep.initial (handle : WindowHandle) (attributes : Attributes K)
    (listener : Listener K) : (Relay.attach handle attributes listener).InStep where
  agree _ _ := rfl
  off _ := rfl

section Turns

variable [Scalar K] {r : Relay K} {t : Turn K}

theorem attached_before (h : ((turn t).run r).state.dispatcher.attached = true) :
    r.dispatcher.attached = true := by
  have hturn : r.dispatcher.attached = true ∧ t.isClose = false := by
    simpa [dispatcher, attached_turn] using h
  exact hturn.1

namespace InStep

/-- Without news neither set changes. -/
theorem of_no_news (hr : r.InStep) (h : t.news? = none) : ((turn t).run r).state.InStep := by
  have hstill := still_of_no_news h r
  simp only [grip, Prod.mk.injEq] at hstill
  rcases hstill with ⟨hattributes, hpressed, hdrag⟩
  refine ⟨?_, ?_⟩
  · intro hline hon
    rw [hattributes] at hon
    rw [hdrag, hpressed]
    exact hr.agree (attached_before hline) hon
  · intro hoff
    rw [hattributes] at hoff
    rw [hdrag]
    exact hr.off hoff

/-- When the buttons are forgotten the drag is cancelled. -/
theorem of_forgets (h : t.forgets = true) : ((turn t).run r).state.InStep := by
  rcases grip_of_forgets h r with ⟨-, hpressed, hidle⟩
  refine ⟨?_, ?_⟩
  · intro _ _
    rw [hpressed]
    exact Slot.held_idle hidle
  · intro _
    exact hidle

/-- A press or a release does the same to both sets. -/
theorem of_button (hr : r.InStep) {e : PointerEvent K} {b : MouseButton}
    (hprimary : e.activation = .primary) (hbutton : e.button = some b) :
    ((turn (.call (.pointer e))).run r).state.InStep := by
  have hgrip := grip_of_button hprimary hbutton r
  simp only [grip, Prod.mk.injEq] at hgrip
  rcases hgrip with ⟨hattributes, hpressed, hdrag⟩
  -- The drag that hears of the button is the one that was open before the settling.
  have hsettled := Arbiter.drag_settleLifted r.arbiter
  refine ⟨?_, ?_⟩
  · intro hline hon
    rw [hattributes] at hon
    have hbefore : r.dispatcher.attached = true := attached_before hline
    have hsame : r.arbiter.drag.held = r.pressed := hr.agree hbefore hon
    have hthere : (Arbiter.settleLifted.run r.arbiter).state.dispatcher.attached = true :=
      (Arbiter.attached_settleLifted r.arbiter).trans hbefore
    rw [hdrag, hpressed, hon]
    cases e.pressed with
    | true =>
        have hpress := Arbiter.held_press e.position b hthere
        simpa [hsettled, hsame, ButtonNews.apply] using hpress
    | false =>
        have hletGo := Arbiter.held_letGo (Arbiter.settleLifted.run r.arbiter).state e.position b
        simpa [hsettled, hsame, ButtonNews.apply] using hletGo
  · intro hoff
    rw [hattributes] at hoff
    have hidle : (Arbiter.settleLifted.run r.arbiter).state.drag.session = none := by
      rw [hsettled]
      exact hr.off hoff
    rw [hdrag, hoff]
    cases e.pressed with
    | true => exact Arbiter.idle_press e.position b hidle
    | false => exact Arbiter.idle_letGo e.position b hidle

theorem turn (hr : r.InStep) (t : Turn K) : ((turn t).run r).state.InStep := by
  cases hnews : t.news? with
  | none =>
      exact hr.of_no_news hnews
  | some news =>
      rcases Turn.eq_of_news hnews with ⟨hforgets, -⟩ | ⟨e, b, rfl, hprimary, hbutton, -⟩
      · exact of_forgets hforgets
      · exact hr.of_button hprimary hbutton

theorem replay (turns : List (Turn K)) (hr : r.InStep) :
    ((Action.replay Relay.turn turns).run r).state.InStep := by
  induction turns generalizing r with
  | nil =>
      exact hr
  | cons t turns ih =>
      rw [Action.run_replay_cons]
      exact ih (hr.turn t)

end InStep

end Turns

/-! ## The loss of the capture -/

/-- With no button pressed and no drag open there is nothing to lose. -/
theorem run_captureLost_idle {r : Relay K} (hpressed : r.pressed = Mask.empty)
    (hidle : r.arbiter.drag.session = none) : captureLost.run r = ⟨(), r, []⟩ := by
  have hsame : ({ r with pressed := Mask.empty } : Relay K) = r := by
    rw [← hpressed]
  simp [captureLost, forgetButtons, hsame, arbitrate, Arbiter.cancel,
    Arbiter.run_finishDrag_none .cancel hidle]

section Lives

variable [Scalar K] (handle : WindowHandle) (attributes : Attributes K) (listener : Listener K)
  (turns : List (Turn K))

/-- A drag is open as long as it holds a button. -/
theorem buttons_of_drag {s : DragSession}
    (h : (live handle attributes listener turns).state.arbiter.drag.session = some s) :
    s.buttons.isEmpty = false := by
  have hlife := (play_live handle attributes listener turns).course
  rcases hlife.drag_track names_position (fun _ _ _ _ => trivial) (.idle rfl) with ⟨S, hS, -⟩
  rcases hS.eq_of_open h with ⟨held, nonempty, holds, -⟩
  exact holds.nonempty_iff.2 nonempty

theorem inStep_live : (live handle attributes listener turns).state.InStep :=
  (InStep.initial handle attributes listener).replay turns

theorem drag_live :
    let r := (live handle attributes listener turns).state
    r.dispatcher.attached = true → r.attributes.dragGestures = true →
      (∀ s, r.arbiter.drag.session = some s → s.buttons = r.pressed) ∧
        (r.arbiter.isActive .drag = true ↔ r.pressed.isEmpty = false) := by
  intro r hline hon
  have hsame : r.arbiter.drag.held = r.pressed :=
    (inStep_live handle attributes listener turns).agree hline hon
  cases hdrag : r.arbiter.drag.session with
  | none =>
      have hnone : r.pressed = Mask.empty := hsame.symm.trans (Slot.held_idle hdrag)
      refine ⟨?_, ?_⟩
      · intro s hs
        cases hs
      · simp [Arbiter.isActive_drag, hdrag, Mask.isEmpty_iff.2 hnone]
  | some s =>
      have hbuttons : s.buttons = r.pressed := (Slot.held_open hdrag).symm.trans hsame
      have hsome := buttons_of_drag handle attributes listener turns hdrag
      rw [hbuttons] at hsome
      refine ⟨?_, ?_⟩
      · intro s' hs
        cases hs
        exact hbuttons
      · simp [Arbiter.isActive_drag, hdrag, hsome]

/-- A window without a pressed button has no drag, whether or not its line is there. -/
theorem no_drag_of_no_button :
    let r := (live handle attributes listener turns).state
    r.pressed.isEmpty = true → r.arbiter.drag.session = none := by
  intro r hempty
  cases hline : r.dispatcher.attached with
  | false =>
      have hcoherent := coherent_live handle attributes listener turns
      exact (Arbiter.openSlots_eq_zero.1 (hcoherent.hushed hline)).1
  | true =>
      cases hon : r.attributes.dragGestures with
      | false =>
          exact (inStep_live handle attributes listener turns).off hon
      | true =>
          have hactive := (drag_live handle attributes listener turns hline hon).2
          simpa [r, Arbiter.isActive_drag, hempty] using hactive

end Lives

/-- In every life, while the line is there and drags are on, the open drag holds the buttons that
the window holds, and a drag is open if and only if there are any; with drags off none is open.  So
a loss of the capture that finds no button pressed is told to nobody and changes nothing, whether
it is called for by itself or comes as a message or an event. -/
theorem drag_and_window_hold_the_same_buttons [Scalar K] (handle : WindowHandle)
    (attributes : Attributes K) (listener : Listener K) (turns : List (Turn K)) :
    let r := (live handle attributes listener turns).state
    (r.dispatcher.attached = true → r.attributes.dragGestures = true →
      (∀ s, r.arbiter.drag.session = some s → s.buttons = r.pressed) ∧
        (r.arbiter.isActive .drag = true ↔ r.pressed.isEmpty = false)) ∧
      (r.attributes.dragGestures = false → r.arbiter.isActive .drag = false) ∧
      (r.pressed.isEmpty = true →
        (step .captureLost).run r = ⟨.done, r, []⟩ ∧
          (∀ (w : Win32.Window K) (m : Win32.Message), w.relay = r →
            Win32.MessageKind.ofNumber? m.number = some .captureChanged →
              (Win32.Window.handle m).run w = ⟨.ok (.handled 0), w, []⟩) ∧
          ∀ w : Gtk.Window K, w.relay = r →
            (Gtk.Window.handle .grabBroken).run w = ⟨.stop, w, []⟩) := by
  intro r
  refine ⟨drag_live handle attributes listener turns, ?_, ?_⟩
  · intro hoff
    have hidle := (inStep_live handle attributes listener turns).off hoff
    simp [r, Arbiter.isActive_drag, hidle]
  · intro hempty
    have hpressed : r.pressed = Mask.empty := Mask.isEmpty_iff.1 hempty
    have hidle : r.arbiter.drag.session = none :=
      no_drag_of_no_button handle attributes listener turns hempty
    have hrun : captureLost.run r = ⟨(), r, []⟩ := run_captureLost_idle hpressed hidle
    refine ⟨?_, ?_, ?_⟩
    · simp [step, hrun]
    · intro w m hw hkind
      have hsame : ({ w with relay := r } : Win32.Window K) = w := by
        rw [← hw]
      simp [Win32.Window.handle, hkind, Win32.Window.handleKind, Win32.Window.handled,
        Win32.Window.relaying, hw, hrun, hsame]
    · intro w hw
      have hsame : (⟨r⟩ : Gtk.Window K) = w := by
        rw [← hw]
      simp [Gtk.Window.handle, Gtk.Window.relaying, hw, hrun, hsame]

end Relay

end WindowRelay

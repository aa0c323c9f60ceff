import WindowRelay.Proofs.Gesture.Frames
import WindowRelay.Proofs.Relay.PointerInput
import WindowRelay.Proofs.Since

/-!
# Button news — what a turn does to the buttons that are held

Of the many turns in the life of a window only a few concern its buttons: a button goes down or is
let go of, or the window loses sight of all of them.  Such a turn has *news*; all others leave the
set of pressed buttons and the open drag as they are.

- `ButtonNews`, `IsDown`: news of the buttons, and the buttons that are down by it.
- `Relay.Turn.news?`: the news in a turn.
- `Relay.still_of_no_news`, `Relay.grip_of_button`, `Relay.grip_of_forgets`: what becomes of the
  buttons and the drag in each case.
-/

namespace WindowRelay

/-! ## News of the buttons -/

inductive ButtonNews
  | button (pressed : Bool) (b : MouseButton)
  | forgotten
  deriving DecidableEq, Repr

namespace ButtonNews

def apply (m : ButtonSet) : ButtonNews → ButtonSet
  | .button true b => m.insert b
  | .button false b => m.erase b
  | .forgotten => Mask.empty

/-- The button with the bit `n` went down. -/
def Presses (n : Fin 32) : ButtonNews → Prop
  | .button true b => Bit.position b = n
  | _ => False

/-- The button with the bit `n` was let go, or all were forgotten. -/
def Frees (n : Fin 32) : ButtonNews → Prop
  | .button true _ => False
  | .button false b => Bit.position b = n
  | .forgotten => True

theorem getLsbD_apply (news : ButtonNews) (m : ButtonSet) (n : Fin 32) :
    (apply m news).bits.getLsbD n = true ↔
      news.Presses n ∨ (¬ news.Frees n ∧ m.bits.getLsbD n = true) := by
  cases news with
  | button pressed b =>
      cases pressed with
      | true =>
          simp only [apply, Presses, Frees, Mask.getLsbD_insert, Bool.or_eq_true,
            decide_eq_true_iff, Fin.ext_iff, not_false_eq_true, true_and]
          rw [or_comm, eq_comm]
      | false =>
          simp only [apply, Presses, Frees, Mask.getLsbD_erase, Bool.and_eq_true,
            Bool.not_eq_true', decide_eq_false_iff_not, Fin.ext_iff, false_or]
          rw [and_comm, eq_comm]
  | forgotten =>
      simp only [apply, Presses, Frees, Mask.getLsbD_empty, Bool.false_eq_true, not_true_eq_false,
        false_and, or_self]

end ButtonNews

/-- By the news, the button with the bit `n` is down. -/
def IsDown (n : Fin 32) (news : List ButtonNews) : Prop :=
  Since (ButtonNews.Presses n) (ButtonNews.Frees n) news

theorem not_isDown_of_forgotten (n : Fin 32) (news : List ButtonNews) :
    ¬ IsDown n (news ++ [.forgotten]) := by
  rw [IsDown, since_snoc]
  simp [ButtonNews.Presses, ButtonNews.Frees]

/-- A set that takes in the news one by one has the buttons that are down by all of it. -/
theorem getLsbD_foldl (news : List ButtonNews) (n : Fin 32) :
    (news.foldl ButtonNews.apply Mask.empty).bits.getLsbD n = true ↔ IsDown n news := by
  induction news using List.reverseRecOn with
  | nil =>
      rw [List.foldl_nil, Mask.getLsbD_empty]
      have hnone : ¬ IsDown n [] := not_since_nil
      simpa using hnone
  | append_singleton news x ih =>
      rw [List.foldl_append, List.foldl_cons, List.foldl_nil, ButtonNews.getLsbD_apply, ih]
      exact since_snoc.symm

namespace Relay

open Act

variable {K : Type}

/-! ## What happens -/

namespace Turn

/-- The turns by which the relay loses sight of the buttons. -/
def forgets : Turn K → Bool
  | .call .captureLost | .call (.focus false) | .call .close => true
  | _ => false

def news? (t : Turn K) : Option ButtonNews :=
  if t.forgets then some .forgotten
  else t.mouseButton?.map fun x => .button x.2.1 x.2.2

end Turn

/-! ## Turns without news -/

/-- What the relay knows of buttons and drags. -/
def grip (r : Relay K) : Attributes K × ButtonSet × Slot DragSession :=
  (r.attributes, r.pressed, r.arbiter.drag)

theorem keeps_arbitrate {α : Type} {m : Act K (Arbiter K) α} (h : Keeps Arbiter.drag m) :
    Keeps grip (arbitrate m) := by
  intro r
  exact congrArg (fun slot => (r.attributes, r.pressed, slot)) (h r.arbiter)

theorem keeps_beside {α : Type} {m : Act K (Arbiter K) α} (h : Keeps Arbiter.beside m) :
    Keeps grip (arbitrate m) :=
  keeps_arbitrate (h.map Prod.fst)

theorem keeps_dispatch {α : Type} (m : Act K (Dispatcher K) α) : Keeps grip (dispatch m) :=
  keeps_beside (Arbiter.keeps_dispatch m)

theorem keeps_scroll [Scalar K] (input : ScrollInput K) : Keeps grip (scroll input) := by
  refine .bind (keeps_beside Arbiter.keeps_settleLifted) fun _ =>
    .bind (.get_bind fun _ => rfl) fun event => ?_
  cases event with
  | none => exact .pure _
  | some e => exact keeps_dispatch _

theorem keeps_pointer {e : PointerEvent K} (h : (Turn.call (.pointer e)).news? = none) :
    Keeps grip (pointer e) := by
  refine .bind (keeps_beside Arbiter.keeps_settleLifted) fun _ => .get_bind fun r => ?_
  refine Keeps.bind (.warnIf _ _) (fun _ => ?_) r
  rcases e with ⟨p, button, pressed, activation⟩
  cases activation with
  | synthetic =>
      exact .pure _
  | primary =>
      cases button with
      | none =>
          exact .bind (.modify fun _ => rfl) fun _ => .bind (.get_bind fun _ => rfl) fun _ =>
            keeps_beside (Arbiter.keeps_motion p)
      | some b =>
          cases h

variable [Scalar K]

theorem keeps_step {c : Call K} (h : (Turn.call c).news? = none) : Keeps grip (step c) := by
  cases c with
  | pointer e =>
      exact .bind (keeps_pointer h) fun _ => .pure _
  | pointerLeft =>
      exact .bind (.bind (keeps_beside Arbiter.keeps_settleLifted) fun _ => keeps_dispatch _)
        fun _ => .pure _
  | scroll input =>
      exact .bind (keeps_scroll input) fun _ => .pure _
  | beginScrollGesture p =>
      exact .bind (keeps_arbitrate (Arbiter.keeps_drag_beginScroll p)) fun _ => .pure _
  | scrollGestureMotion precise d t =>
      exact .bind (keeps_beside (Arbiter.keeps_scrollMotion precise d t)) fun _ => .pure _
  | liftScrollGesture =>
      exact .bind (keeps_beside Arbiter.keeps_liftScroll) fun _ => .pure _
  | startMomentum =>
      exact .bind (keeps_beside Arbiter.keeps_startMomentum) fun _ => .pure _
  | endScrollGesture =>
      exact .bind (keeps_beside (Arbiter.keeps_finishScroll .release)) fun _ => .pure _
  | cancelScrollGesture =>
      exact .bind (keeps_beside (Arbiter.keeps_finishScroll .cancel)) fun _ => .pure _
  | flushGestures =>
      exact .bind (keeps_beside Arbiter.keeps_settleLifted) fun _ => .pure _
  | captureLost =>
      cases h
  | focus gained =>
      cases gained with
      | true => exact .bind (keeps_dispatch _) fun _ => .pure _
      | false => cases h
  | close =>
      cases h
  | hitTest p =>
      exact .bind (keeps_dispatch _) fun _ => .pure _
  | closeRequested =>
      exact .bind (keeps_dispatch _) fun _ => .pure _
  | resized =>
      exact .bind (keeps_dispatch _) fun _ => .pure _
  | scaleFactorChanged =>
      exact .bind (keeps_dispatch _) fun _ => .pure _
  | updateReady =>
      exact .bind (keeps_dispatch _) fun _ => .pure _
  | hasComposingContext =>
      exact .bind (keeps_dispatch _) fun _ => .pure _
  | text c =>
      exact .bind (keeps_dispatch _) fun _ => .pure _

theorem still_of_no_news {t : Turn K} (h : t.news? = none) (r : Relay K) :
    ((turn t).run r).state.grip = r.grip := by
  cases t with
  | call c =>
      have hcall : Keeps grip (turn (.call c)) := .bind (keeps_step h) fun _ => .pure _
      exact hcall r
  | adapt l =>
      rfl

/-! ## Turns with news -/

/-- The set takes in the press or the release, and the drag hears of it. -/
theorem grip_of_button {e : PointerEvent K} {b : MouseButton} (hprimary : e.activation = .primary)
    (hbutton : e.button = some b) (r : Relay K) :
    ((turn (.call (.pointer e))).run r).state.grip =
      (r.attributes, ButtonNews.apply r.pressed (.button e.pressed b),
        ((if e.pressed then Arbiter.press e.position b r.attributes.dragGestures
          else Arbiter.letGo e.position b).run
            (Arbiter.settleLifted.run r.arbiter).state).state.drag) := by
  have hnews : (if e.pressed then r.pressed.insert b else r.pressed.erase b) =
      ButtonNews.apply r.pressed (.button e.pressed b) := by
    cases e.pressed <;> rfl
  simp [turn, step, pointer, PointerEvent.primary?, hprimary, route, attributesOf, arbitrate, hold,
    hbutton, Arbiter.pointer, Arbiter.state_notify, grip, hnews]

theorem grip_of_forgets {t : Turn K} (h : t.forgets = true) (r : Relay K) :
    let next := ((turn t).run r).state
    next.attributes = r.attributes ∧ next.pressed = Mask.empty ∧
      next.arbiter.drag.session = none := by
  intro next
  -- The drag is cancelled before anything else is done to the arbiter.
  have hall := (Arbiter.run_cancelAll_vacant r.arbiter).1
  cases t with
  | call c =>
      cases c with
      | captureLost =>
          exact ⟨rfl, rfl, Arbiter.run_cancel_drag_vacant r.arbiter⟩
      | focus gained =>
          cases gained with
          | true => cases h
          | false =>
              refine ⟨rfl, rfl, ?_⟩
              simpa [next, turn, step, focus, arbitrate, forgetButtons, dispatch,
                Arbiter.dispatch] using hall
      | close =>
          refine ⟨rfl, rfl, ?_⟩
          simpa [next, turn, step, close, arbitrate, forgetButtons, dispatch,
            Arbiter.dispatch] using hall
      | _ =>
          cases h
  | adapt l =>
      cases h

omit [Scalar K] in
/-- A turn with news is the press or release of a button, or a loss of sight. -/
theorem Turn.eq_of_news {t : Turn K} {news : ButtonNews} (h : t.news? = some news) :
    (t.forgets = true ∧ news = .forgotten) ∨
      ∃ e b, t = .call (.pointer e) ∧ e.activation = .primary ∧ e.button = some b ∧
        news = .button e.pressed b := by
  unfold news? at h
  split at h
  · next hforgets =>
      cases h
      exact .inl ⟨hforgets, rfl⟩
  · rcases t with (⟨p, _ | b, pressed, _ | _⟩ | _) | _ <;> cases h
    exact .inr ⟨_, b, rfl, rfl, rfl, rfl⟩

theorem pressed_turn (t : Turn K) (r : Relay K) :
    ((turn t).run r).state.pressed = t.news?.toList.foldl ButtonNews.apply r.pressed := by
  cases hnews : t.news? with
  | none =>
      exact congrArg (fun g => g.2.1) (still_of_no_news hnews r)
  | some news =>
      rcases Turn.eq_of_news hnews with ⟨hforgets, rfl⟩ | ⟨e, b, rfl, hprimary, hbutton, rfl⟩
      · exact (grip_of_forgets hforgets r).2.1
      · exact congrArg (fun g => g.2.1) (grip_of_button hprimary hbutton r)

/-- The set is what the news of all turns make of it. -/
theorem pressed_replay (turns : List (Turn K)) (r : Relay K) :
    ((Action.replay turn turns).run r).state.pressed =
      (turns.filterMap Turn.news?).foldl ButtonNews.apply r.pressed := by
  induction turns generalizing r with
  | nil =>
      rfl
  | cons t turns ih =>
      rw [Action.run_replay_cons, ih, pressed_turn]
      cases hnews : t.news? <;> simp [hnews]

end Relay

end WindowRelay

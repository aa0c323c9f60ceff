import WindowRelay.Proofs.Gesture.Buttons
import WindowRelay.Proofs.Gesture.Course
import WindowRelay.Proofs.Gesture.Protocol

/-!
# Drags — what a drag session hears

A drag session is told of every button that goes down or up while it is open, and so can keep the
set of the buttons held down.  It starts with the button that opened the drag; the release comes
with the last button let go of, and not before.

- `DragPhase.next?`: the protocol of one session.
- `Arbiter.Stands`: an arbiter whose drag slot agrees with a phase of the protocol.
- `Arbiter.drags_keep_the_held_buttons`: every drag of every run follows the protocol.
-/

namespace WindowRelay

variable {K ι : Type}

/-! ## The protocol -/

namespace Callback

/-- The number of the drag that a callback opens, with its first button. -/
def beginDrag? : Callback K → Option (Nat × MouseButton)
  | .beginDrag n _ b => some (n, b)
  | _ => none

def dragCall? : Callback K → Option (Nat × DragCall K)
  | .drag n call => some (n, call)
  | _ => none

theorem eq_of_beginDrag? {c : Callback K} {n : Nat} {b : MouseButton}
    (h : c.beginDrag? = some (n, b)) : ∃ p, c = .beginDrag n p b := by
  cases c with
  | beginDrag m p button =>
      cases h
      exact ⟨p, rfl⟩
  | _ =>
      cases h

end Callback

inductive DragPhase (ι : Type)
  | holding (held : Finset ι)
  | ended
  deriving DecidableEq

namespace DragPhase

variable [DecidableEq ι]

/-- The phase after a call, where the call is allowed.  When no button is held any more, only the
release is. -/
def next? (name : MouseButton → ι) : DragPhase ι → DragCall K → Option (DragPhase ι)
  | .ended, _ => none
  | .holding held, .motion _ => if held = ∅ then none else some (.holding held)
  | .holding held, .mouseDown _ b =>
      if held = ∅ ∨ name b ∈ held then none else some (.holding (insert (name b) held))
  | .holding held, .mouseUp _ b =>
      if name b ∈ held then some (.holding (held.erase (name b))) else none
  | .holding held, .ended .release => if held = ∅ then some .ended else none
  | .holding held, .ended .cancel => if held = ∅ then none else some .ended

section Steps

variable (name : MouseButton → ι) {held : Finset ι} (p : Point K) {b : MouseButton}

theorem next?_motion (h : held.Nonempty) :
    next? name (.holding held) (.motion p) = some (.holding held) := by
  simp [next?, h.ne_empty]

theorem next?_mouseDown (h : held.Nonempty) (fresh : name b ∉ held) :
    next? name (.holding held) (.mouseDown p b) = some (.holding (insert (name b) held)) := by
  simp [next?, h.ne_empty, fresh]

theorem next?_mouseUp (isHeld : name b ∈ held) :
    next? name (.holding held) (.mouseUp p b) = some (.holding (held.erase (name b))) := by
  simp [next?, isHeld]

theorem next?_release (h : held = ∅) :
    next? (K := K) name (.holding held) (.ended .release) = some .ended := by
  simp [next?, h]

theorem next?_cancel (h : held.Nonempty) :
    next? (K := K) name (.holding held) (.ended .cancel) = some .ended := by
  simp [next?, h.ne_empty]

end Steps

end DragPhase

def dragProtocol [DecidableEq ι] (name : MouseButton → ι) :
    Protocol K MouseButton (DragCall K) (DragPhase ι) where
  opening? := Callback.beginDrag?
  calling? := Callback.dragCall?
  opening_apart c x h := by
    cases c <;> first | rfl | cases h
  start b := .holding {name b}
  next? := DragPhase.next? name
  slips _ _ := False
  ended := .ended

/-- The phase of a drag that was opened with the button `b`, if what it heard was allowed. -/
def dragPhase? [DecidableEq ι] (name : MouseButton → ι) (n : Nat) (b : MouseButton)
    (log : List (Callback K)) : Option (DragPhase ι) :=
  (callsOf Callback.dragCall? n log).foldlM (DragPhase.next? name) (.holding {name b})

namespace Arbiter

/-! ## Moves keep the protocol -/

/-- The open drag of an arbiter is the current one, and holds the same buttons, at least one. -/
inductive Stands (known : Set MouseButton) (name : MouseButton → ι) (a : Arbiter K) :
    Standing (DragPhase ι) → Prop
  | idle (h : a.drag.session = none) : Stands known name a ⟨a.dispatcher.ledger.opened, none⟩
  | holding {s : DragSession} {held : Finset ι} (h : a.drag.session = some s)
      (nonempty : held.Nonempty) (holds : Holds known name s.buttons held) :
      Stands known name a
        ⟨a.dispatcher.ledger.opened, some (s.capability.session, .holding held)⟩

variable {known : Set MouseButton} {name : MouseButton → ι} {a b : Arbiter K}
  {es : List (Effect K)} {S : Standing (DragPhase ι)}

namespace Stands

theorem eq_of_idle (hS : a.Stands known name S) (h : a.drag.session = none) :
    S = ⟨a.dispatcher.ledger.opened, none⟩ := by
  cases hS with
  | idle _ =>
      rfl
  | holding isOpen _ _ =>
      rw [h] at isOpen
      cases isOpen

theorem eq_of_open {s : DragSession} (hS : a.Stands known name S)
    (h : a.drag.session = some s) :
    ∃ held : Finset ι, held.Nonempty ∧ Holds known name s.buttons held ∧
      S = ⟨a.dispatcher.ledger.opened, some (s.capability.session, .holding held)⟩ := by
  cases hS with
  | idle hidle =>
      rw [h] at hidle
      cases hidle
  | holding isOpen nonempty holds =>
      rw [h] at isOpen
      cases isOpen
      exact ⟨_, nonempty, holds, rfl⟩

/-- What does not touch the drag leaves it where it stands. -/
theorem still [DecidableEq ι] (h : a.Stands known name S) (hdrag : b.drag = a.drag)
    (later : a.dispatcher.ledger.opened ≤ b.dispatcher.ledger.opened)
    (ignored : (Effect.callbacks es).all (dragProtocol name).ignores = true) :
    ∃ S', b.Stands known name S' ∧
      (dragProtocol name).Track S (Effect.callbacks es) S' := by
  refine ⟨⟨b.dispatcher.ledger.opened, S.current⟩, ?_, .of_ignored ignored ?_ rfl⟩
  · cases h with
    | idle hidle => exact .idle (by rw [hdrag, hidle])
    | holding isOpen nonempty holds => exact .holding (by rw [hdrag, isOpen]) nonempty holds
  · cases h with
    | idle _ => exact later
    | holding _ _ _ => exact later

end Stands

theorem drag_ignores_lastWords [DecidableEq ι] (a : Arbiter K) :
    (Effect.callbacks a.lastWords).all (dragProtocol name).ignores = true := by
  rw [callbacks_lastWords]
  rfl

/-- The callbacks of a move follow the protocol. -/
theorem Move.drag_track [DecidableEq ι] (h : Move a es b) (names : Names known name)
    (fits : ∀ e ∈ es, ∀ b, e.dragButton? = some b → b ∈ known) (hS : a.Stands known name S) :
    ∃ S', b.Stands known name S' ∧
      (dragProtocol name).Track S (Effect.callbacks es) S' := by
  cases h with
  | tell c plain attached =>
      refine hS.still rfl le_rfl ?_
      cases c <;> first | rfl | cases plain
  | remark w harmless =>
      exact hS.still rfl le_rfl rfl
  | adapt l =>
      exact hS.still rfl le_rfl rfl
  | edit l es attached asides =>
      refine hS.still rfl le_rfl ?_
      rw [Effect.callbacks_of_asides asides]
      rfl
  | mouseMotion p attached idle =>
      exact hS.still rfl le_rfl rfl
  | beginDrag p button attached idle =>
      have hknown : button ∈ known := fits _ List.mem_cons_self button rfl
      rcases hS.eq_of_idle idle with rfl
      exact ⟨_, .holding rfl (Finset.singleton_nonempty _) (.single names hknown),
        .opening rfl le_rfl (.nil _)⟩
  | dragMotion p isOpen =>
      rcases hS.eq_of_open isOpen with ⟨held, nonempty, -, rfl⟩
      exact ⟨_, hS, .calling rfl (DragPhase.next?_motion name p nonempty) (.nil _)⟩
  | mouseDown p button isOpen fresh =>
      have hknown : button ∈ known := fits _ List.mem_cons_self button rfl
      rcases hS.eq_of_open isOpen with ⟨held, nonempty, holds, rfl⟩
      have hfresh : name button ∉ held := by
        rw [← holds.has_iff button hknown, fresh]
        exact Bool.false_ne_true
      exact ⟨_, .holding rfl (Finset.insert_nonempty _ held) (holds.insert names hknown),
        .calling rfl (DragPhase.next?_mouseDown name p nonempty hfresh) (.nil _)⟩
  | mouseUp p button isOpen pressed more =>
      have hknown : button ∈ known := fits _ List.mem_cons_self button rfl
      rcases hS.eq_of_open isOpen with ⟨held, -, holds, rfl⟩
      have hheld : name button ∈ held := (holds.has_iff button hknown).1 pressed
      have hrest := holds.erase names hknown
      exact ⟨_, .holding rfl (hrest.nonempty_iff.1 more) hrest,
        .calling rfl (DragPhase.next?_mouseUp name p hheld) (.nil _)⟩
  | lastUp p button isOpen pressed last =>
      have hknown : button ∈ known := fits _ List.mem_cons_self button rfl
      rcases hS.eq_of_open isOpen with ⟨held, -, holds, rfl⟩
      have hheld : name button ∈ held := (holds.has_iff button hknown).1 pressed
      -- No button is left, so the release is all that is allowed, and it comes.
      have hempty : held.erase (name button) = ∅ := (holds.erase names hknown).isEmpty_iff.1 last
      exact ⟨_, .idle rfl, .calling rfl (DragPhase.next?_mouseUp name p hheld)
        (.calling rfl (DragPhase.next?_release (K := K) name hempty) (.leave (.nil _)))⟩
  | cancelDrag isOpen =>
      rcases hS.eq_of_open isOpen with ⟨held, nonempty, -, rfl⟩
      exact ⟨_, .idle rfl,
        .calling rfl (DragPhase.next?_cancel (K := K) name nonempty) (.leave (.nil _))⟩
  | beginScroll p attached idle =>
      exact hS.still rfl (Nat.le_succ _) rfl
  | scrollMotion precise d v t isOpen moving =>
      exact hS.still rfl le_rfl rfl
  | lift isOpen tracking =>
      exact hS.still rfl le_rfl rfl
  | momentum isOpen lifted =>
      exact hS.still rfl le_rfl rfl
  | releaseScroll isOpen =>
      exact hS.still rfl le_rfl rfl
  | cancelScroll isOpen =>
      exact hS.still rfl le_rfl rfl
  | cut attached noDrag noScroll =>
      exact hS.still rfl le_rfl (drag_ignores_lastWords a)

theorem Course.drag_track [DecidableEq ι] (h : Course a es b) (names : Names known name)
    (fits : ∀ e ∈ es, ∀ b, e.dragButton? = some b → b ∈ known) (hS : a.Stands known name S) :
    ∃ S', b.Stands known name S' ∧
      (dragProtocol name).Track S (Effect.callbacks es) S' := by
  induction h generalizing S with
  | nil a =>
      exact ⟨S, hS, .nil S⟩
  | move first _ ih =>
      rcases first.drag_track names (fun e he => fits e (List.mem_append_left _ he)) hS with
        ⟨S₁, hS₁, htrack⟩
      rcases ih (fun e he => fits e (List.mem_append_right _ he)) hS₁ with ⟨S₂, hS₂, hrest⟩
      rw [Effect.callbacks_append]
      exact ⟨S₂, hS₂, htrack.append hrest⟩
  | @cut a c fs attached _ ih =>
      -- The cut leaves an open drag as it is: it is called as before.
      have hcut : ∃ S', a.cutLine.Stands known name S' ∧
          (dragProtocol name).Track S (Effect.callbacks a.lastWords) S' :=
        hS.still rfl le_rfl (drag_ignores_lastWords a)
      rcases hcut with ⟨S₁, hS₁, htrack⟩
      rcases ih (fun e he => fits e (List.mem_append_right _ he)) hS₁ with ⟨S₂, hS₂, hrest⟩
      rw [Effect.callbacks_append]
      exact ⟨S₂, hS₂, htrack.append hrest⟩

/-! ## Buttons that a drag does not hear of -/

/-- A press of a button that is held, or the release of one that is not, is not told to the drag. -/
theorem silent_pointer {s : DragSession} {button : MouseButton} (e : PointerEvent K)
    (dragGestures : Bool) (h : a.drag.session = some s) (hbutton : e.button = some button)
    (hsame : s.buttons.has button = e.pressed) :
    ∀ c ∈ Effect.callbacks ((pointer e dragGestures).run a).effects,
      c.beginDrag? = none ∧ c.dragCall? = none := by
  have hnotify : ∀ c ∈ Effect.callbacks
      ((dispatch (Dispatcher.notify (.mouseButton e.position e.pressed button))).run a).effects,
      c.beginDrag? = none ∧ c.dragCall? = none := by
    intro c hc
    rw [callbacks_notify] at hc
    split at hc
    · cases List.mem_singleton.1 hc
      exact ⟨rfl, rfl⟩
    · cases hc
  have hdrag : ((if e.pressed then press e.position button dragGestures
      else letGo e.position button).run a).effects = [] := by
    cases hpressed : e.pressed with
    | true => simp [run_press_again e.position dragGestures h (hsame.trans hpressed)]
    | false => simp [run_letGo_unseen e.position h (hsame.trans hpressed)]
  intro c hc
  simp only [pointer, hbutton, Action.run_bind, state_notify, hdrag, List.append_nil] at hc
  exact hnotify c hc

/-! ## Whole runs -/

theorem drag_track_replay [Scalar K] [DecidableEq ι] (names : Names known name) (d : Dispatcher K)
    {calls : List (Call K)} (hcalls : ∀ c ∈ calls, ∀ b, c.button? = some b → b ∈ known) :
    ∃ S, ((Action.replay step calls).run (ofDispatcher d)).state.Stands known name S ∧
      (dragProtocol name).Track ⟨d.ledger.opened, none⟩
        (Effect.callbacks ((Action.replay step calls).run (ofDispatcher d)).effects) S :=
  (course_replay calls (ofDispatcher d)).drag_track names (emits_replay hcalls _) (.idle rfl)

/-- What is left of an arbiter cancels its open drag. -/
theorem drag_track_drop [DecidableEq ι] (names : Names known name) (hS : a.Stands known name S) :
    ∃ next, (dragProtocol name).Track S (Effect.callbacks (drop.run a).effects) ⟨next, none⟩ := by
  have hfits : ∀ e ∈ (cancelAll.run a).effects, ∀ b, e.dragButton? = some b → b ∈ known := by
    intro e he b hb
    cases (utters_cancelAll a e he).namesOnly b hb
  rcases (plays_cancelAll a).course.drag_track names hfits hS with ⟨S', hS', htrack⟩
  rw [hS'.eq_of_idle (run_cancelAll_vacant a).1, callbacks_cancelAll] at htrack
  rw [callbacks_drop]
  exact ⟨_, htrack⟩

theorem dragPhase?_of_track [DecidableEq ι] {log : List (Callback K)} {next n : Nat} {p : Point K}
    {button : MouseButton} (h : (dragProtocol name).Track ⟨next, none⟩ log S)
    (hbegin : .beginDrag n p button ∈ log) :
    dragPhase? name n button log = some ((dragProtocol (K := K) name).phase S n) := by
  have hbounded : Protocol.Bounded (⟨next, none⟩ : Standing (DragPhase ι)) := by
    intro m ph hm
    cases hm
  exact (h.path_of_opening hbounded hbegin rfl).foldlM fun _ _ hslip => hslip

/-- Every drag follows the protocol.  While it is open, its phase holds the buttons that are down,
at least one, and it hears nothing of a button that goes down twice or up unseen; when it is not
open any more, it is over, and all are over when the arbiter is dropped.  It is called only after it
was opened.  Buttons may go by any name that tells those in the calls apart as their bits do. -/
theorem drags_keep_the_held_buttons [Scalar K] [DecidableEq ι] (known : Set MouseButton)
    (name : MouseButton → ι) (names : Names known name) (d : Dispatcher K) (calls : List (Call K))
    (hcalls : ∀ c ∈ calls, ∀ b, c.button? = some b → b ∈ known) :
    let run := (Action.replay step calls).run (ofDispatcher d)
    let log := Effect.callbacks run.effects
    let whole := Effect.callbacks (run.effects ++ (drop.run run.state).effects)
    (∀ n p button, .beginDrag n p button ∈ log →
      (run.state.session? .drag = some n →
        ∃ held, held.Nonempty ∧ dragPhase? name n button log = some (.holding held) ∧
          ∀ e drags b, e.button = some b → b ∈ known → (e.pressed = true ↔ name b ∈ held) →
            ∀ c ∈ Effect.callbacks ((step (.pointer e drags)).run run.state).effects,
              c.beginDrag? = none ∧ c.dragCall? = none) ∧
      (run.state.session? .drag ≠ some n → dragPhase? name n button log = some .ended)) ∧
      (∀ n p button, .beginDrag n p button ∈ whole →
        dragPhase? name n button whole = some .ended) ∧
      (∀ n before call after, whole = before ++ .drag n call :: after →
        ∃ p button, .beginDrag n p button ∈ before) ∧
      ∀ s, run.state.drag.session = some s →
        s.buttons.isEmpty = false ∧ ∃ p button, .beginDrag s.capability.session p button ∈ log := by
  intro run log whole
  rcases drag_track_replay names d hcalls with ⟨S, hS, htrack⟩
  rcases drag_track_drop names hS with ⟨next, hdrop⟩
  have hwhole : (dragProtocol name).Track ⟨d.ledger.opened, none⟩ whole ⟨next, none⟩ := by
    simp only [whole, Effect.callbacks_append]
    exact htrack.append hdrop
  refine ⟨?_, ?_, ?_, ?_⟩
  · intro n p button hbegin
    rw [dragPhase?_of_track htrack hbegin]
    cases hS with
    | idle hidle =>
        have hnone : run.state.session? .drag = none := by
          simp only [session?, run, hidle, Option.map_none]
        rw [hnone]
        exact ⟨fun h => (by cases h), fun _ => rfl⟩
    | @holding s held isOpen nonempty holds =>
        have hsession : run.state.session? .drag = some s.capability.session := by
          simp only [session?, run, isOpen, Option.map_some]
        rw [hsession]
        constructor
        · intro hn
          cases hn
          refine ⟨held, nonempty, by rw [Protocol.phase_self], ?_⟩
          intro e drags b hbutton hb hsame c hc
          -- The word of the session and the set of its phase agree on the button.
          have hhas : s.buttons.has b = e.pressed := by
            rw [Bool.eq_iff_iff, holds.has_iff b hb, hsame]
          rw [step, Action.run_bind] at hc
          exact silent_pointer e drags isOpen hbutton hhas c (by simpa using hc)
        · intro hn
          rw [Protocol.phase_ne fun h => hn (by rw [h])]
          rfl
  · intro n p button hbegin
    exact dragPhase?_of_track hwhole hbegin
  · intro n before call after hsplit
    rw [hsplit] at hwhole
    rcases hwhole.opening_before_calling rfl with ⟨c, hc, b, hopens⟩
    rcases Callback.eq_of_beginDrag? hopens with ⟨p, rfl⟩
    exact ⟨p, b, hc⟩
  · intro s isOpen
    rcases hS.eq_of_open isOpen with ⟨held, nonempty, holds, rfl⟩
    rcases htrack.current_opened rfl with ⟨ph, hnone⟩ | ⟨c, hc, b, hopens⟩
    · cases hnone
    · rcases Callback.eq_of_beginDrag? hopens with ⟨p, rfl⟩
      exact ⟨holds.nonempty_iff.2 nonempty, p, b, hc⟩

/-- Two buttons that go by their own names, the first of which is let go of twice. -/
theorem drags_keep_two_held_buttons :
    let p : Point Float := ⟨0, 0⟩
    let calls : List (Call Float) :=
      [.pointer (.press p .left) true, .pointer (.press p .right) true,
        .pointer (.release p .left) true, .pointer (.release p .left) true]
    let d : Dispatcher Float := Dispatcher.attach ⟨1⟩ Listener.deaf
    let run := (Action.replay step calls).run (ofDispatcher d)
    let whole := Effect.callbacks (run.effects ++ (drop.run run.state).effects)
    Names {b | b.index.toNat ≤ MouseButton.maxIndex} id ∧
      (∀ c ∈ calls, ∀ b, c.button? = some b → b.index.toNat ≤ MouseButton.maxIndex) ∧
      .beginDrag 0 p .left ∈ whole ∧ dragPhase? id 0 .left whole = some .ended := by
  intro p calls d run whole
  have hcalls : ∀ c ∈ calls, ∀ b, c.button? = some b →
      b.index.toNat ≤ MouseButton.maxIndex := by
    simp [calls, Call.button?, PointerEvent.press, PointerEvent.release, MouseButton.left,
      MouseButton.right, MouseButton.maxIndex]
  have hbegin : .beginDrag 0 p .left ∈ whole := .tail _ (.head _)
  have hover := (drags_keep_the_held_buttons _ id names_self d calls hcalls).2.1 0 p .left hbegin
  exact ⟨names_self, hcalls, hbegin, hover⟩

end Arbiter

end WindowRelay

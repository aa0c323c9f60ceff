import Mathlib.Data.List.Induction
import WindowRelay.Proofs.Gesture.Frames
import WindowRelay.Proofs.Gesture.Naming

/-!
# Tokens — one name for a gesture, everywhere

An arbiter says three times over which gestures are open: by the state of each kind, by the owner of
each kind, and by the sessions in its slots, which the listener has heard of.  All three name a
gesture by its token, and tokens are taken from one counter for both kinds.

- `Gesture`: a session with the token that the arbiter shows for it.
- `Arbiter.started`: the gestures of a run, in the order of beginning.
- `Arbiter.lastToken_step`: a call starts at most one gesture.
- `Arbiter.tokens_name_the_gestures`: in every run the three agree with what the listener heard.
-/

namespace WindowRelay

variable {K : Type}

/-! ## Gestures -/

structure Gesture where
  token : GestureToken
  session : SessionId
  deriving DecidableEq, Repr

/-- The gesture of a kind that started last. -/
def lastStarted? (kind : SessionKind) (gestures : List Gesture) : Option Gesture :=
  (gestures.filter fun g => decide (g.session.kind = kind)).getLast?

namespace Arbiter

open Act

variable {a b : Arbiter K} {es : List (Effect K)} {first : Nat}

section Started

variable [Scalar K]

/-- The gestures that a call starts, each with the token that its kind shows after the call. -/
def startedBy (c : Call K) (a : Arbiter K) : List Gesture :=
  let next := (step c).run a
  (begun (Effect.callbacks next.effects)).filterMap fun s =>
    (next.state.state s.kind).token?.map fun t => ⟨t, s⟩

def started : List (Call K) → Arbiter K → List Gesture
  | [], _ => []
  | c :: calls, a => startedBy c a ++ started calls ((step c).run a).state

theorem started_snoc (calls : List (Call K)) (c : Call K) (a : Arbiter K) :
    started (calls ++ [c]) a =
      started calls a ++ startedBy c ((Action.replay step calls).run a).state := by
  induction calls generalizing a with
  | nil =>
      simp [started]
  | cons d calls ih =>
      simp [started, ih, Action.run_replay_cons]

end Started

/-- The gesture of a session, where the session with the number `first` has the first token. -/
def gestureFrom (first : Nat) (s : SessionId) : Gesture :=
  ⟨tokenFrom first s, s⟩

theorem lastStarted?_map (first : Nat) (kind : SessionKind) (log : List (Callback K)) :
    lastStarted? kind ((begun log).map (gestureFrom first)) =
      (latest? kind log).map (gestureFrom first) := by
  simp only [lastStarted?, latest?, List.filter_map, List.getLast?_map]
  rfl

/-! ## One session at a time -/

theorem keeps_finishDrag (how : Ending) :
    Keeps Arbiter.lastToken (finishDrag how : Act K (Arbiter K) Bool) := by
  refine .get_bind fun a => ?_
  cases a.drag.session <;> rfl

theorem keeps_letGo (p : Point K) (b : MouseButton) : Keeps Arbiter.lastToken (letGo p b) := by
  intro a
  cases hdrag : a.drag.session with
  | none =>
      rw [run_letGo_idle p b hdrag]
  | some s =>
      cases hheld : s.buttons.has b with
      | false =>
          rw [run_letGo_unseen p hdrag hheld]
      | true =>
          cases hlast : (s.buttons.erase b).isEmpty with
          | false => rw [run_letGo_more p hdrag hheld hlast, withDrag]
          | true => rw [run_letGo_last p hdrag hheld hlast, leave]

theorem lastToken_press (p : Point K) (b : MouseButton) (opensDrag : Bool) (a : Arbiter K) :
    ((press p b opensDrag).run a).state.lastToken ≤ a.lastToken + 1 := by
  cases hdrag : a.drag.session with
  | some s =>
      cases hheld : s.buttons.has b with
      | true =>
          rw [run_press_again p opensDrag hdrag hheld]
          exact Nat.le_succ _
      | false =>
          rw [run_press_more p opensDrag hdrag hheld]
          exact Nat.le_succ _
  | none =>
      rcases opens_or_refused opensDrag a with ⟨rfl, hattached⟩ | hrefused
      · rw [run_press_first p b hdrag hattached]
        exact Nat.le_refl _
      · rw [run_press_refused p b hdrag hrefused]
        exact Nat.le_succ _

theorem lastToken_pointer (e : PointerEvent K) (dragGestures : Bool) (a : Arbiter K) :
    ((pointer e dragGestures).run a).state.lastToken ≤ a.lastToken + 1 := by
  cases hbutton : e.button with
  | none =>
      have hmotion := congrArg Prod.snd (keeps_motion e.position a)
      simp only [pointer, hbutton]
      exact Nat.le_succ_of_le (Nat.le_of_eq hmotion)
  | some b =>
      simp only [pointer, hbutton, Action.run_bind, state_notify]
      cases e.pressed with
      | true => exact lastToken_press e.position b dragGestures a
      | false => exact Nat.le_succ_of_le (Nat.le_of_eq (keeps_letGo e.position b a))

theorem lastToken_beginScroll (p : Point K) (a : Arbiter K) :
    ((beginScroll p).run a).state.lastToken ≤ a.lastToken + 1 := by
  have hsettle := congrArg Prod.snd (keeps_settleLifted a)
  simp only [beginScroll, Action.run_bind]
  generalize (settleLifted.run a).state = settled at hsettle ⊢
  have hsame : settled.lastToken = a.lastToken := hsettle
  rw [← hsame]
  cases hscroll : settled.scroll.session with
  | some s =>
      rw [run_openScroll_busy p hscroll]
      exact Nat.le_succ _
  | none =>
      cases hattached : settled.dispatcher.attached with
      | false =>
          rw [run_openScroll_detached p hscroll hattached]
          exact Nat.le_succ _
      | true =>
          rw [run_openScroll_attached p hscroll hattached]
          exact Nat.le_refl _

theorem withDrag_self {s : DragSession} (h : a.drag.session = some s) : a.withDrag s = a := by
  have hslot : ({ a.drag with session := some s } : Slot DragSession) = a.drag := by
    rw [← h]
  rw [withDrag, hslot]

section Calls

variable [Scalar K]

theorem lastToken_step (c : Call K) (a : Arbiter K) :
    ((step c).run a).state.lastToken ≤ a.lastToken + 1 := by
  have hstill {α : Type} {m : Act K (Arbiter K) α} (hm : Keeps Arbiter.lastToken m)
      (reply : α → Reply) :
      ((m >>= fun x => pure (reply x)).run a).state.lastToken ≤ a.lastToken + 1 :=
    Nat.le_succ_of_le (Nat.le_of_eq (hm a))
  cases c with
  | pointer e drags => exact lastToken_pointer e drags a
  | beginScroll p => exact lastToken_beginScroll p a
  | scrollMotion precise d t => exact hstill ((keeps_scrollMotion precise d t).map Prod.snd) _
  | liftScroll => exact hstill (keeps_liftScroll.map Prod.snd) _
  | startMomentum => exact hstill (keeps_startMomentum.map Prod.snd) _
  | endScroll => exact hstill ((keeps_finishScroll .release).map Prod.snd) _
  | settleLifted => exact hstill (keeps_settleLifted.map Prod.snd) _
  | cancel kind =>
      cases kind with
      | drag => exact hstill (keeps_finishDrag .cancel) _
      | scroll => exact hstill ((keeps_finishScroll .cancel).map Prod.snd) _
  | cancelAll =>
      have hall : Keeps Arbiter.lastToken (cancelAll : Act K (Arbiter K) Unit) :=
        .bind (keeps_finishDrag .cancel) fun _ =>
          .bind ((keeps_finishScroll .cancel).map Prod.snd) fun _ => .pure _
      exact hstill hall _
  | closed => exact hstill ((keeps_dispatch _).map Prod.snd) _

/-- A call starts at most one gesture, and its kind shows the token of it. -/
theorem startedBy_eq {log : List (Callback K)} (h : Known first log a) (c : Call K) :
    startedBy c a =
      (begun (Effect.callbacks ((step c).run a).effects)).map (gestureFrom first) := by
  have hnext := h.course (course_step c a)
  have htoken := lastToken_step c a
  simp only [startedBy]
  generalize (step c).run a = next at hnext htoken ⊢
  have happend := begun_append log (Effect.callbacks next.effects)
  -- There are as many sessions as tokens, and the call takes at most one.
  have hcount : (begun (Effect.callbacks next.effects)).length ≤ 1 := by
    have hbefore := h.lastToken
    have hafter := hnext.lastToken
    rw [happend, List.length_append] at hafter
    omega
  cases hbegun : begun (Effect.callbacks next.effects) with
  | nil =>
      rfl
  | cons s others =>
      have hnone : others = [] := by
        simpa [hbegun] using hcount
      have hlatest : latest? s.kind (log ++ Effect.callbacks next.effects) = some s := by
        rw [hbegun, hnone] at happend
        exact latest?_of_begun happend rfl
      simp [hnone, (hnext.told s.kind).token?_of_latest hlatest, gestureFrom]

theorem started_eq (d : Dispatcher K) (calls : List (Call K)) :
    started calls (ofDispatcher d) =
      (begun (Effect.callbacks ((Action.replay step calls).run (ofDispatcher d)).effects)).map
        (gestureFrom d.ledger.opened) := by
  induction calls using List.reverseRecOn with
  | nil =>
      rfl
  | append_singleton calls c ih =>
      rw [started_snoc, ih, startedBy_eq (.replay d calls) c]
      simp [Action.replay_append_effects, Action.run_replay_cons, begun]

/-! ## Requests that change nothing -/

/-- A scroll gesture that is tracked or in momentum is in the way of another one. -/
theorem run_beginScroll_refused {p : Point K}
    (h : a.stage? = some .tracking ∨ a.stage? = some .momentum) :
    (step (.beginScroll p)).run a = ⟨.token none, a, []⟩ := by
  have hstage : ∃ stage, a.stage? = some stage ∧ stage ≠ .lifted := by
    rcases h with h | h
    · exact ⟨.tracking, h, by decide⟩
    · exact ⟨.momentum, h, by decide⟩
  rcases hstage with ⟨stage, hstage, hmoving⟩
  rcases Option.map_eq_some_iff.1 hstage with ⟨s, hs, -⟩
  simp [step, beginScroll, settleLifted, hstage, hmoving, run_openScroll_busy p hs]

/-- A press during a drag opens no session, and adds no more to the drag than a button. -/
theorem press_during_drag {s : DragSession} {e : PointerEvent K} {b : MouseButton} (drags : Bool)
    (h : a.drag.session = some s) (hpressed : e.pressed = true) (hbutton : e.button = some b) :
    let next := (step (.pointer e drags)).run a
    begun (Effect.callbacks next.effects) = [] ∧
      ∃ buttons, next.state = a.withDrag { s with buttons := buttons } := by
  intro next
  -- The listener is told of the press, which opens nothing.
  have hnotify : begun (Effect.callbacks ((dispatch
      (Dispatcher.notify (.mouseButton e.position e.pressed b))).run a).effects) = [] := by
    rw [callbacks_notify]
    split <;> rfl
  have hpress : begun (Effect.callbacks ((press e.position b drags).run a).effects) = [] ∧
      ∃ buttons, ((press e.position b drags).run a).state =
        a.withDrag { s with buttons := buttons } := by
    cases hheld : s.buttons.has b with
    | true =>
        rw [run_press_again e.position drags h hheld]
        exact ⟨rfl, s.buttons, (withDrag_self h).symm⟩
    | false =>
        rw [run_press_more e.position drags h hheld]
        exact ⟨rfl, s.buttons.insert b, rfl⟩
  refine ⟨?_, ?_⟩
  · simp only [next, step, pointer, hbutton, Action.run_bind, Effect.callbacks_append,
      begun_append, hnotify, state_notify]
    have hnone : begun (Effect.callbacks ([] : List (Effect K))) = [] := rfl
    simpa [hpressed, hnone] using hpress.1
  · simp only [next, step, pointer, hbutton, Action.run_bind, state_notify]
    simpa [hpressed] using hpress.2

end Calls

/-- In every run the tokens tell the gestures apart: each session that the listener opened is a gesture
with a token of its own, greater than all before, whatever their kinds.  The state of a kind, its
owner and the sessions that the listener has open name the same gesture; when none is open, the
state names the gesture that started last, and how its session ended.  In no state does a second
gesture of a kind start: a scroll gesture that is tracked or in momentum has the request refused and
nothing changed, and a press during a drag only adds to the buttons of that drag. -/
theorem tokens_name_the_gestures [Scalar K] (d : Dispatcher K) (calls : List (Call K)) :
    let run := (Action.replay step calls).run (ofDispatcher d)
    let a := run.state
    let log := Effect.callbacks run.effects
    let gestures := started calls (ofDispatcher d)
    gestures.map Gesture.session = begun log ∧
      (gestures.Pairwise fun g h => g.token.number < h.token.number) ∧
      (∀ kind t,
        (a.state kind = .active t ↔ a.owner kind = .transient t) ∧
          (a.owner kind = .transient t ↔
            ∃ g ∈ gestures, g.session.kind = kind ∧ g.token = t ∧ g.session ∈ unfinished log) ∧
          ∀ how, a.state kind = .ended how t ↔
            ∃ g, lastStarted? kind gestures = some g ∧ g.token = t ∧
              .ending g.session how ∈ log) ∧
      (∀ (b : Arbiter K) (p : Point K), b.stage? = some .tracking ∨ b.stage? = some .momentum →
        (step (.beginScroll p)).run b = ⟨.token none, b, []⟩) ∧
      ∀ (b : Arbiter K) (s : DragSession) (e : PointerEvent K) (button : MouseButton)
        (drags : Bool), b.drag.session = some s → e.pressed = true → e.button = some button →
          let next := (step (.pointer e drags)).run b
          begun (Effect.callbacks next.effects) = [] ∧
            ∃ buttons, next.state = b.withDrag { s with buttons := buttons } := by
  intro run a log gestures
  have hknown : Known d.ledger.opened log a := .replay d calls
  have hgestures : gestures = (begun log).map (gestureFrom d.ledger.opened) := started_eq d calls
  refine ⟨?_, ?_, ?_, fun b p => run_beginScroll_refused, fun b s e button drags =>
    press_during_drag drags⟩
  · simp [hgestures, gestureFrom, Function.comp_def]
  · rw [hgestures, List.pairwise_map]
    refine hknown.account.ordered.imp_of_mem ?_
    intro s s' hs _ hlt
    have hfirst := (hknown.account.number_mem hs).1
    simp only [gestureFrom, tokenFrom]
    omega
  · intro kind t
    have hstate : a.state kind = .active t ↔ a.owner kind = .transient t :=
      (hknown.told kind).active_iff.trans hknown.owner_iff.symm
    refine ⟨hstate, hknown.owner_iff_unfinished.trans ?_, ?_⟩
    · rw [hgestures]
      constructor
      · rintro ⟨s, hopen, hkind, htoken⟩
        have hbegan := List.mem_map_of_mem (f := gestureFrom d.ledger.opened)
          (mem_unfinished.1 hopen).1
        exact ⟨_, hbegan, hkind, htoken, hopen⟩
      · rintro ⟨g, hg, hkind, htoken, hopen⟩
        rcases List.mem_map.1 hg with ⟨s, -, rfl⟩
        exact ⟨s, hopen, hkind, htoken⟩
    · intro how
      refine ((hknown.told kind).ended_iff hknown.account).trans ?_
      rw [hgestures, lastStarted?_map]
      constructor
      · rintro ⟨s, hlatest, htoken, hends⟩
        exact ⟨gestureFrom d.ledger.opened s, by rw [hlatest]; rfl, htoken, hends⟩
      · rintro ⟨g, hlatest, htoken, hends⟩
        rcases Option.map_eq_some_iff.1 hlatest with ⟨s, hs, rfl⟩
        exact ⟨s, hs, htoken, hends⟩

end Arbiter

end WindowRelay

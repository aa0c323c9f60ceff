import WindowRelay.Proofs.Gesture.Scrolls
import WindowRelay.Proofs.Relay.Sessions

/-!
# Scroll sessions — of a window, and of an arbiter on its own

Whoever drives the scroll gestures, in whatever order and with whatever times, their sessions hear
what `ScrollBeat.complete` allows.  Both kinds of runs are courses of an arbiter that starts and
ends without a gesture, so there is one argument for both.
-/

namespace WindowRelay

variable {K : Type}

namespace Relay

/-- The drop of a relay ends in a course that leaves no gesture open. -/
theorem course_drop (r : Relay K) :
    ∃ a, Arbiter.Course r.arbiter (drop.run r).effects a ∧ a.scroll.session = none := by
  rcases play_drop r with ⟨a, hplay, hslots, -⟩
  exact ⟨a, hplay.course, (Arbiter.openSlots_eq_zero.1 hslots).2⟩

variable [Scalar K]

theorem scrolls_of_life (handle : WindowHandle) (attributes : Attributes K)
    (listener : Listener K) (turns : List (Turn K)) :
    let life := live handle attributes listener turns
    let whole := Effect.callbacks (life.effects ++ (drop.run life.state).effects)
    ScrollsInOrder (Effect.callbacks life.effects) (life.state.arbiter.session? .scroll) ∧
      ScrollsInOrder whole none := by
  intro life whole
  have hlife := (play_live handle attributes listener turns).course
  rcases course_drop life.state with ⟨a, hdrop, hidle⟩
  have hwhole := (hlife.trans hdrop).scrolls_in_order rfl
  have hnone : a.session? .scroll = none := by
    simp [Arbiter.session?, hidle]
  rw [hnone] at hwhole
  exact ⟨hlife.scrolls_in_order rfl, hwhole⟩

theorem momentum_of_lift (handle : WindowHandle) (attributes : Attributes K)
    (listener : Listener K) (before after : List (Turn K)) :
    let life := live handle attributes listener before
    let lift := (step .liftScrollGesture).run life.state
    let rest := (Action.replay turn after).run lift.state
    lift.value = .yesNo true →
      ∃ n, life.state.arbiter.session? .scroll = some n ∧
        MotionAfterMomentum n
          (Effect.callbacks (rest.effects ++ (drop.run rest.state).effects)) := by
  intro life lift rest hlift
  have hmoved : (Arbiter.liftScroll.run life.state.arbiter).value = true := by
    have hreply : (Reply.yesNo (Arbiter.liftScroll.run life.state.arbiter).value : Reply K) =
        .yesNo true := hlift
    simpa using hreply
  rcases Arbiter.lifted_of_moved hmoved with ⟨s, hs, hlifted⟩
  have hlife := (play_live handle attributes listener before).course
  have hlifting := (Arbiter.plays_liftScroll life.state.arbiter).course
  have hrest : Arbiter.Course lift.state.arbiter rest.effects rest.state.arbiter :=
    (plays_replay after lift.state).course
  rcases course_drop rest.state with ⟨a, hdrop, -⟩
  have hmotion :=
    (hlife.trans hlifting).motion_after_momentum rfl hlifted rfl (hrest.trans hdrop)
  exact ⟨s.capability.session, by simp [Arbiter.session?, hs], hmotion⟩

end Relay

namespace Arbiter

variable [Scalar K]

theorem scrolls_of_run (d : Dispatcher K) (calls : List (Call K)) :
    let run := (Action.replay step calls).run (ofDispatcher d)
    let whole := Effect.callbacks (run.effects ++ (drop.run run.state).effects)
    ScrollsInOrder (Effect.callbacks run.effects) (run.state.session? .scroll) ∧
      ScrollsInOrder whole none := by
  intro run whole
  have hrun : Course (ofDispatcher d) run.effects run.state := course_replay calls (ofDispatcher d)
  rcases course_drop run.state with ⟨es, b, hdrop, hcalls, -, hidle⟩
  have hwhole := (hrun.trans hdrop).scrolls_in_order rfl
  have hnone : b.session? .scroll = none := by
    simp [session?, hidle]
  rw [hnone, Effect.callbacks_append, hcalls, ← Effect.callbacks_append] at hwhole
  exact ⟨hrun.scrolls_in_order rfl, hwhole⟩

theorem momentum_of_lift (d : Dispatcher K) (before after : List (Call K)) :
    let run := (Action.replay step before).run (ofDispatcher d)
    let lift := (step .liftScroll).run run.state
    let rest := (Action.replay step after).run lift.state
    lift.value = .moved true →
      ∃ n, run.state.session? .scroll = some n ∧
        MotionAfterMomentum n
          (Effect.callbacks (rest.effects ++ (drop.run rest.state).effects)) := by
  intro run lift rest hlift
  have hmoved : (liftScroll.run run.state).value = true := by
    have hreply : Reply.moved (liftScroll.run run.state).value = .moved true := hlift
    simpa using hreply
  rcases lifted_of_moved hmoved with ⟨s, hs, hlifted⟩
  have hrun : Course (ofDispatcher d) run.effects run.state := course_replay before (ofDispatcher d)
  have hlifting := (plays_liftScroll run.state).course
  have hrest : Course lift.state rest.effects rest.state := course_replay after lift.state
  rcases course_drop rest.state with ⟨es, b, hdrop, hcalls, -, -⟩
  have hmotion :=
    (hrun.trans hlifting).motion_after_momentum rfl hlifted rfl (hrest.trans hdrop)
  rw [Effect.callbacks_append, hcalls, ← Effect.callbacks_append] at hmotion
  exact ⟨s.capability.session, by simp [session?, hs], hmotion⟩

end Arbiter

/-- A scroll session hears what can be completed to a word of its language, and has heard such a
word when it is not open any more; when the window or the arbiter is dropped, all have.  A session
that was found lifting hears no motion from then on but after the start of momentum. -/
theorem scroll_sessions_keep_order [Scalar K] :
    (∀ (handle : WindowHandle) (attributes : Attributes K) (listener : Listener K)
      (turns : List (Relay.Turn K)),
      let life := Relay.live handle attributes listener turns
      let whole := Effect.callbacks (life.effects ++ (Relay.drop.run life.state).effects)
      ScrollsInOrder (Effect.callbacks life.effects) (life.state.arbiter.session? .scroll) ∧
        ScrollsInOrder whole none) ∧
    (∀ (handle : WindowHandle) (attributes : Attributes K) (listener : Listener K)
      (before after : List (Relay.Turn K)),
      let life := Relay.live handle attributes listener before
      let lift := (Relay.step .liftScrollGesture).run life.state
      let rest := (Action.replay Relay.turn after).run lift.state
      lift.value = .yesNo true →
        ∃ n, life.state.arbiter.session? .scroll = some n ∧
          MotionAfterMomentum n
            (Effect.callbacks (rest.effects ++ (Relay.drop.run rest.state).effects))) ∧
    (∀ (d : Dispatcher K) (calls : List (Arbiter.Call K)),
      let run := (Action.replay Arbiter.step calls).run (Arbiter.ofDispatcher d)
      let whole := Effect.callbacks (run.effects ++ (Arbiter.drop.run run.state).effects)
      ScrollsInOrder (Effect.callbacks run.effects) (run.state.session? .scroll) ∧
        ScrollsInOrder whole none) ∧
    ∀ (d : Dispatcher K) (before after : List (Arbiter.Call K)),
      let run := (Action.replay Arbiter.step before).run (Arbiter.ofDispatcher d)
      let lift := (Arbiter.step .liftScroll).run run.state
      let rest := (Action.replay Arbiter.step after).run lift.state
      lift.value = .moved true →
        ∃ n, run.state.session? .scroll = some n ∧
          MotionAfterMomentum n
            (Effect.callbacks (rest.effects ++ (Arbiter.drop.run rest.state).effects)) :=
  ⟨Relay.scrolls_of_life, Relay.momentum_of_lift, Arbiter.scrolls_of_run,
    Arbiter.momentum_of_lift⟩

end WindowRelay

import WindowRelay.Proofs.Gesture.Coherence

/-!
# Course — runs of an arbiter on its own

A relay cancels every gesture before it cuts the line to the listener.  An arbiter that is used
without one may lose its line while gestures are open, and their sessions are called as before.

- `Arbiter.Course`: moves, with cuts of the line at any time between them.
- `Arbiter.course_replay`: every list of calls is a course.
- `Arbiter.course_drop`: the sessions hear the same from a drop as from the cancelling of all
  gestures, which is a course that leaves no gesture open.
-/

namespace WindowRelay
namespace Arbiter

open Act

variable {K : Type} {a b c : Arbiter K} {es fs : List (Effect K)} {P : Effect K → Prop}

/-! ## Courses -/

def lastWords (a : Arbiter K) : List (Effect K) :=
  a.dispatcher.lastWords

@[simp]
theorem callbacks_lastWords (a : Arbiter K) : Effect.callbacks a.lastWords = [.closed] :=
  a.dispatcher.callbacks_lastWords

inductive Course : Arbiter K → List (Effect K) → Arbiter K → Prop
  | nil (a : Arbiter K) : Course a [] a
  | move {a b c : Arbiter K} {es fs : List (Effect K)} (first : Move a es b)
      (rest : Course b fs c) : Course a (es ++ fs) c
  | cut {a c : Arbiter K} {fs : List (Effect K)} (attached : a.dispatcher.attached = true)
      (rest : Course a.cutLine fs c) : Course a (a.lastWords ++ fs) c

namespace Course

theorem trans (h : Course a es b) (h' : Course b fs c) : Course a (es ++ fs) c := by
  induction h with
  | nil a =>
      exact h'
  | move first _ ih =>
      rw [List.append_assoc]
      exact .move first (ih h')
  | cut attached _ ih =>
      rw [List.append_assoc]
      exact .cut attached (ih h')

/-- The callbacks of a course are in order. -/
theorem follows (h : Course a es b) : a.book.Follows (Effect.callbacks es) b.book := by
  induction h with
  | nil a =>
      exact .nil a.book
  | move first _ ih =>
      rw [Effect.callbacks_append]
      exact first.follows.append ih
  | cut attached _ ih =>
      -- The farewell is no callback of a session.
      rw [Effect.callbacks_append, callbacks_lastWords]
      exact .cons (.other rfl rfl (by simp)) ih

end Course

theorem Play.course (h : Play P a es b) : Course a es b := by
  induction h with
  | nil a =>
      exact .nil a
  | cons first _ _ ih =>
      exact .move first ih

/-! ## Calls -/

/-- Every call but the close moves the arbiter. -/
theorem plays_step [Scalar K] (c : Call K) (h : c ≠ .closed) :
    Plays (fun _ => True) id (step c) := by
  -- A call is an operation that plays, followed by the wrapping of its answer.
  have hcall {α : Type} {Q : Effect K → Prop} {m : Act K (Arbiter K) α} (hm : Plays Q id m)
      (reply : α → Reply) : Plays (fun _ => True) id (m >>= fun x => pure (reply x)) :=
    .bind (hm.mono fun _ _ => trivial) fun x => .pure (reply x)
  cases c with
  | pointer e drags => exact hcall (plays_pointer e drags) _
  | beginScroll p => exact hcall (plays_beginScroll p) _
  | scrollMotion precise d t => exact hcall (plays_scrollMotion precise d t) _
  | liftScroll => exact hcall plays_liftScroll _
  | startMomentum => exact hcall plays_startMomentum _
  | endScroll => exact hcall (plays_finishScroll .release) _
  | settleLifted => exact hcall plays_settleLifted _
  | cancel kind => exact hcall (plays_cancel kind) _
  | cancelAll => exact hcall plays_cancelAll _
  | closed => exact absurd rfl h

theorem run_closed_attached (h : a.dispatcher.attached = true) :
    (dispatch Dispatcher.closed).run a = ⟨(), a.cutLine, a.lastWords⟩ := by
  simp [dispatch, Dispatcher.run_closed_attached h, cutLine, lastWords]

theorem run_closed_detached (h : a.dispatcher.attached = false) :
    (dispatch Dispatcher.closed).run a = ⟨(), a, []⟩ := by
  simp [dispatch, Dispatcher.run_closed_detached h]

theorem course_closed (a : Arbiter K) :
    Course a ((dispatch Dispatcher.closed).run a).effects
      ((dispatch Dispatcher.closed).run a).state := by
  cases hattached : a.dispatcher.attached with
  | false =>
      rw [run_closed_detached hattached]
      exact .nil a
  | true =>
      have hcut : Course a (a.lastWords ++ []) a.cutLine := .cut hattached (.nil a.cutLine)
      rw [List.append_nil] at hcut
      rw [run_closed_attached hattached]
      exact hcut

theorem course_step [Scalar K] (c : Call K) (a : Arbiter K) :
    Course a ((step c).run a).effects ((step c).run a).state := by
  by_cases hclosed : c = .closed
  · subst hclosed
    simpa [step] using course_closed a
  · exact (plays_step c hclosed a).course

theorem course_replay [Scalar K] (calls : List (Call K)) (a : Arbiter K) :
    Course a ((Action.replay step calls).run a).effects
      ((Action.replay step calls).run a).state := by
  induction calls generalizing a with
  | nil =>
      exact .nil a
  | cons c calls ih =>
      rw [Action.run_replay_cons]
      exact (course_step c a).trans (ih ((step c).run a).state)

/-! ## The end of an arbiter -/

/-- The callback that cancels a session. -/
def cancellation (kind : SessionKind) (n : Nat) : Callback K :=
  match kind with
  | .drag => .drag n (.ended .cancel)
  | .scroll => .scroll n (.ended .cancel)

/-- The cancellations of the open sessions, the drag first. -/
def cancellations (a : Arbiter K) : List (Callback K) :=
  (a.session? .drag).toList.map (cancellation .drag) ++
    (a.session? .scroll).toList.map (cancellation .scroll)

theorem callbacks_cancel (kind : SessionKind) (a : Arbiter K) :
    Effect.callbacks ((cancel kind).run a).effects =
      (a.session? kind).toList.map (cancellation kind) := by
  cases kind with
  | drag =>
      cases hsession : a.drag.session with
      | none =>
          simp only [cancel, run_finishDrag_none .cancel hsession, session?, hsession]
          rfl
      | some s =>
          simp only [cancel, run_finishDrag_some .cancel hsession, session?, hsession]
          rfl
  | scroll =>
      cases hsession : a.scroll.session with
      | none =>
          simp only [cancel, run_finishScroll_none .cancel hsession, session?, hsession]
          rfl
      | some s =>
          simp only [cancel, run_finishScroll_cancel hsession, session?, hsession]
          rfl

theorem callbacks_cancelAll (a : Arbiter K) :
    Effect.callbacks (cancelAll.run a).effects = a.cancellations := by
  have hscroll : ((cancel .drag).run a).state.session? .scroll = a.session? .scroll := by
    cases hdrag : a.drag.session with
    | none =>
        simp only [cancel, run_finishDrag_none .cancel hdrag]
    | some s =>
        simp only [cancel, run_finishDrag_some .cancel hdrag]
        rfl
  simp only [cancelAll, Action.run_bind, Action.run_pure, List.append_nil,
    Effect.callbacks_append, callbacks_cancel, hscroll]
  rfl

theorem callbacks_giveUp {kind : SessionKind} (c : Option (Capability kind)) (a : Arbiter K) :
    Effect.callbacks ((giveUp c).run a).effects =
      (c.map (·.session)).toList.map (cancellation kind) := by
  cases c with
  | none => rfl
  | some c => cases kind <;> rfl

/-- A drop gives up what is open, which the sessions hear as a cancel. -/
theorem callbacks_drop (a : Arbiter K) :
    Effect.callbacks (drop.run a).effects = a.cancellations := by
  simp only [drop, dispatch, Dispatcher.drop, Action.run_bind, Action.run_get, Action.run_set,
    Action.run_within, Action.run_modify, Effect.callbacks_append, callbacks_giveUp,
    List.append_nil, List.nil_append, Option.map_map]
  rfl

theorem course_drop (a : Arbiter K) :
    ∃ es b, Course a es b ∧ Effect.callbacks es = Effect.callbacks (drop.run a).effects ∧
      b.drag.session = none ∧ b.scroll.session = none :=
  ⟨(cancelAll.run a).effects, (cancelAll.run a).state, (plays_cancelAll a).course,
    (callbacks_cancelAll a).trans (callbacks_drop a).symm, run_cancelAll_vacant a⟩

end Arbiter
end WindowRelay

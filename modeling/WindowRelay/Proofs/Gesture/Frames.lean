import WindowRelay.Proofs.Gesture.Playing

/-!
# Frames — what operations leave alone

`Act.Keeps view m` says that `m` does not change what `view` sees of the state.  It is proved along
the ways in which operations are put together.

- `Arbiter.beside`: the drag slot and the token counter, which no operation on an open scroll
  gesture touches.
- `Arbiter.keeps_drag_beginScroll`: a new scroll gesture takes a token, and leaves the drag alone.
-/

namespace WindowRelay

namespace Act

variable {K σ τ α β ρ ρ' : Type} {view : σ → ρ}

def Keeps (view : σ → ρ) (m : Act K σ α) : Prop :=
  ∀ s, view (m.run s).state = view s

namespace Keeps

theorem pure (x : α) : Keeps view (pure x : Act K σ α) := by
  intro s
  rfl

theorem modify {f : σ → σ} (hf : ∀ s, view (f s) = view s) :
    Keeps view (modify f : Act K σ PUnit) :=
  hf

theorem bind {m : Act K σ α} {f : α → Act K σ β} (hm : Keeps view m)
    (hf : ∀ x, Keeps view (f x)) : Keeps view (m >>= f) := by
  intro s
  rw [Action.run_bind]
  exact (hf _ _).trans (hm s)

/-- What is done may depend on the state it is done to. -/
theorem get_bind {f : σ → Act K σ β} (hf : ∀ s, view ((f s).run s).state = view s) :
    Keeps view (get >>= f) :=
  hf

theorem ite {c : Prop} [Decidable c] {m n : Act K σ α} (hm : Keeps view m) (hn : Keeps view n) :
    Keeps view (if c then m else n) := by
  split
  · exact hm
  · exact hn

theorem warnIf (condition : Bool) (w : Warning) :
    Keeps view (warnIf condition w : Act K σ Unit) := by
  intro s
  rw [run_warnIf]

/-- What is seen of what is seen. -/
theorem map {m : Act K σ α} (h : Keeps view m) (f : ρ → ρ') : Keeps (fun s => f (view s)) m := by
  intro s
  exact congrArg f (h s)

end Keeps

end Act

namespace Arbiter

open Act

variable {K : Type}

def beside (a : Arbiter K) : Slot DragSession × Nat :=
  (a.drag, a.lastToken)

theorem keeps_dispatch {α : Type} (m : Act K (Dispatcher K) α) :
    Keeps beside (dispatch m) := by
  intro a
  rfl

theorem keeps_finishScroll (how : Ending) :
    Keeps beside (finishScroll how : Act K (Arbiter K) Bool) := by
  refine .get_bind fun a => ?_
  cases a.scroll.session <;> rfl

theorem keeps_settleLifted : Keeps beside (settleLifted : Act K (Arbiter K) Unit) := by
  refine .get_bind fun a => ?_
  have hsettle : Keeps beside (if a.stage? = some .lifted then (do
      let _ ← finishScroll .release
      pure ()) else pure () : Act K (Arbiter K) Unit) :=
    .ite (.bind (keeps_finishScroll .release) fun _ => .pure _) (.pure _)
  exact hsettle a

theorem keeps_scrollMotion [Scalar K] (precise : Bool) (d : Delta K) (t : Time) :
    Keeps beside (scrollMotion precise d t) := by
  refine .bind keeps_settleLifted fun _ => .get_bind fun a => ?_
  cases a.scroll.session <;> rfl

theorem keeps_motion (p : Point K) : Keeps beside (motion p) := by
  refine .get_bind fun a => ?_
  cases a.drag.session <;> rfl

theorem keeps_advance (source target : ScrollStage) :
    Keeps beside (advance source target : Act K (Arbiter K) _) := by
  refine .get_bind fun a => ?_
  cases a.scroll.session with
  | none => rfl
  | some s =>
      by_cases hstage : s.stage = source
      · simp [hstage, beside]
      · simp [hstage]

theorem keeps_liftScroll : Keeps beside (liftScroll : Act K (Arbiter K) Bool) :=
  .bind (keeps_advance _ _) fun _ => .pure _

theorem keeps_startMomentum : Keeps beside (startMomentum : Act K (Arbiter K) Bool) := by
  refine .bind (keeps_advance _ _) fun s => ?_
  cases s with
  | none => exact .pure _
  | some s => exact .bind (keeps_dispatch _) fun _ => .pure _

theorem keeps_drag_beginScroll (p : Point K) : Keeps Arbiter.drag (beginScroll p) := by
  refine .bind (keeps_settleLifted.map Prod.fst) fun _ => .get_bind fun a => ?_
  cases a.scroll.session with
  | some s =>
      rfl
  | none =>
      refine Keeps.bind ((keeps_dispatch _).map Prod.fst) (fun c => ?_) a
      cases c with
      | none => exact .pure _
      | some c =>
          exact .bind (.get_bind fun _ => rfl) fun _ => .bind (.modify fun _ => rfl) fun _ => .pure _

end Arbiter

end WindowRelay

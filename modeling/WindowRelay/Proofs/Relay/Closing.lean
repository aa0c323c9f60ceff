import WindowRelay.Proofs.Gesture.Course
import WindowRelay.Proofs.Relay.Sessions

/-!
# Closing — the close of a window is final

A close cancels the open gestures, the drag first, and says farewell to the listener if that was
not done before.  Whatever the toolkit calls after that is told to nobody, hands out no session and
does not reach the document.

- `Arbiter.Silent`: no gesture is open and the line is cut.
- `Arbiter.Play.silent`: from there on only harmless warnings are left to be given.
- `Arbiter.Play.farewell`: the farewell is said once, namely when the line is cut.
-/

namespace WindowRelay

namespace Arbiter

variable {K : Type} {a b : Arbiter K} {es : List (Effect K)} {P : Effect K → Prop}

/-! ## Silent arbiters -/

structure Silent (a : Arbiter K) : Prop where
  cut : a.dispatcher.attached = false
  noDrag : a.drag.session = none
  noScroll : a.scroll.session = none

theorem Silent.owner (ha : a.Silent) (kind : SessionKind) : a.owner kind = .primary := by
  cases kind with
  | drag => simp [Arbiter.owner, ha.noDrag]
  | scroll => simp [Arbiter.owner, ha.noScroll]

/-- All moves but a warning and a change of the listener need a gesture or an uncut line. -/
theorem Move.silent (h : Move a es b) (ha : a.Silent) :
    b.Silent ∧ Effect.callbacks es = [] ∧ Effect.accesses es = [] := by
  have hcut : a.dispatcher.attached ≠ true := by
    rw [ha.cut]
    exact Bool.false_ne_true
  cases h with
  | remark w harmless => exact ⟨ha, rfl, rfl⟩
  | adapt l => exact ⟨⟨ha.cut, ha.noDrag, ha.noScroll⟩, rfl, rfl⟩
  | tell c plain attached => exact absurd attached hcut
  | edit l es attached asides => exact absurd attached hcut
  | mouseMotion p attached idle => exact absurd attached hcut
  | beginDrag p button attached idle => exact absurd attached hcut
  | beginScroll p attached idle => exact absurd attached hcut
  | cut attached noDrag noScroll => exact absurd attached hcut
  | dragMotion p isOpen => exact nomatch ha.noDrag.symm.trans isOpen
  | mouseDown p button isOpen fresh => exact nomatch ha.noDrag.symm.trans isOpen
  | mouseUp p button isOpen held more => exact nomatch ha.noDrag.symm.trans isOpen
  | lastUp p button isOpen held last => exact nomatch ha.noDrag.symm.trans isOpen
  | cancelDrag isOpen => exact nomatch ha.noDrag.symm.trans isOpen
  | scrollMotion precise d v t isOpen moving => exact nomatch ha.noScroll.symm.trans isOpen
  | lift isOpen tracking => exact nomatch ha.noScroll.symm.trans isOpen
  | momentum isOpen lifted => exact nomatch ha.noScroll.symm.trans isOpen
  | releaseScroll isOpen => exact nomatch ha.noScroll.symm.trans isOpen
  | cancelScroll isOpen => exact nomatch ha.noScroll.symm.trans isOpen

theorem Play.silent (h : Play P a es b) (ha : a.Silent) :
    b.Silent ∧ Effect.callbacks es = [] ∧ Effect.accesses es = [] := by
  induction h with
  | nil a =>
      exact ⟨ha, rfl, rfl⟩
  | cons first _ _ ih =>
      rcases first.silent ha with ⟨hb, hcalls, haccesses⟩
      rcases ih hb with ⟨hc, hcalls', haccesses'⟩
      rw [Effect.callbacks_append, Effect.accesses_append, hcalls, haccesses, hcalls', haccesses']
      exact ⟨hc, rfl, rfl⟩

/-! ## The farewell -/

/-- The farewell, if it is still to be said. -/
def farewell (a : Arbiter K) : List (Effect K) :=
  if a.dispatcher.attached then [.callback .closed] else []

theorem Move.farewell (h : Move a es b) :
    es.filter Effect.cutsLine ++ b.farewell = a.farewell := by
  -- All moves but the cut keep the line, and do not say the farewell.
  have hkept (hline : ∀ e ∈ es, e.cutsLine = false) :
      es.filter Effect.cutsLine ++ b.farewell = a.farewell := by
    have hnone : es.filter Effect.cutsLine = [] := by
      simpa using hline
    rw [hnone, List.nil_append, Arbiter.farewell, h.attached hline]
    rfl
  cases h with
  | tell c plain attached =>
      refine hkept fun e he => ?_
      cases List.mem_singleton.1 he
      cases c <;> first | rfl | cases plain
  | edit l es attached asides =>
      exact hkept fun e he => Effect.cutsLine_of_isBackground
        (Effect.isBackground_of_isAside (asides e he))
  | cut attached noDrag noScroll =>
      have hsaid : (Effect.callback (K := K) .closed ::
          if a.dispatcher.ledger.outstanding != 0 then [.warning .closedWithOpenCapabilities]
          else []).filter Effect.cutsLine = [.callback .closed] := by
        split <;> rfl
      rw [hsaid]
      simp [Arbiter.farewell, attached, cutLine]
  | _ =>
      exact hkept (by simp [Effect.cutsLine])

theorem Play.farewell (h : Play P a es b) :
    es.filter Effect.cutsLine ++ b.farewell = a.farewell := by
  induction h with
  | nil a =>
      rfl
  | cons first _ _ ih =>
      rw [List.filter_append, List.append_assoc, ih, first.farewell]

/-! ## What a close says -/

theorem callbacks_closed (a : Arbiter K) :
    Effect.callbacks ((dispatch Dispatcher.closed).run a).effects =
      if a.dispatcher.attached then [.closed] else [] := by
  cases hattached : a.dispatcher.attached with
  | false =>
      rw [run_closed_detached hattached]
      rfl
  | true =>
      rw [run_closed_attached hattached, callbacks_lastWords]
      rfl

end Arbiter

namespace Relay

variable {K : Type}

/-- A close cancels the open drag and the open scroll gesture, and says farewell. -/
theorem callbacks_close (r : Relay K) :
    Effect.callbacks (close.run r).effects =
      (r.arbiter.session? .drag).toList.map (fun n => .drag n (.ended .cancel)) ++
        (r.arbiter.session? .scroll).toList.map (fun n => .scroll n (.ended .cancel)) ++
        if r.dispatcher.attached then [.closed] else [] := by
  have hline : (Arbiter.cancelAll.run r.arbiter).state.dispatcher.attached =
      r.arbiter.dispatcher.attached :=
    (Arbiter.plays_cancelAll r.arbiter).attached fun _ => Effect.cutsLine_of_isBackground
  have hclose : (close.run r).effects =
      (Arbiter.cancelAll.run r.arbiter).effects ++
        ((Arbiter.dispatch Dispatcher.closed).run
          (Arbiter.cancelAll.run r.arbiter).state).effects := by
    simp [close, arbitrate, forgetButtons, dispatch]
  rw [hclose, Effect.callbacks_append, Arbiter.callbacks_cancelAll, Arbiter.callbacks_closed,
    hline]
  rfl

theorem silent_close (r : Relay K) : (close.run r).state.arbiter.Silent := by
  have hvacant := Arbiter.run_cancelAll_vacant r.arbiter
  have hstate : (close.run r).state.arbiter =
      ((Arbiter.dispatch Dispatcher.closed).run (Arbiter.cancelAll.run r.arbiter).state).state := by
    simp [close, arbitrate, forgetButtons, dispatch]
  rw [hstate]
  cases hattached : (Arbiter.cancelAll.run r.arbiter).state.dispatcher.attached with
  | false =>
      rw [Arbiter.run_closed_detached hattached]
      exact ⟨hattached, hvacant.1, hvacant.2⟩
  | true =>
      rw [Arbiter.run_closed_attached hattached]
      exact ⟨rfl, hvacant.1, hvacant.2⟩

/-! ## Answers after the close -/

section Answers

variable [Scalar K] {r : Relay K}

theorem run_beginScrollGesture_silent (h : r.arbiter.Silent) (p : Point K) :
    (step (.beginScrollGesture p)).run r = ⟨.token none, r, []⟩ := by
  simp [step, arbitrate, Arbiter.beginScroll, Arbiter.settleLifted, Arbiter.stage?, h.noScroll,
    Arbiter.run_openScroll_detached p h.noScroll h.cut]

theorem run_closeRequested_silent (h : r.arbiter.Silent) :
    (step .closeRequested).run r = ⟨.yesNo true, r, []⟩ := by
  simp [step, dispatch, arbitrate, Arbiter.dispatch, Dispatcher.shouldClose, Dispatcher.notify,
    h.cut]

theorem run_hitTest_silent (h : r.arbiter.Silent) (p : Point K) :
    (step (.hitTest p)).run r = ⟨.hit .client, r, []⟩ := by
  simp [step, dispatch, arbitrate, Arbiter.dispatch, Dispatcher.hitTest, Dispatcher.notify, h.cut]

theorem run_hasComposingContext_silent (h : r.arbiter.Silent) :
    (step .hasComposingContext).run r = ⟨.yesNo false, r, []⟩ := by
  simp [step, dispatch, arbitrate, Arbiter.dispatch, Dispatcher.hasEditor, h.cut]

theorem run_text_silent (h : r.arbiter.Silent) (c : InputMethod.Call K) :
    (step (.text c)).run r = ⟨.text none, r, []⟩ := by
  have hedit : (Dispatcher.edit (InputMethod.step c)).run r.arbiter.dispatcher =
      ⟨none, r.arbiter.dispatcher, []⟩ :=
    Dispatcher.run_edit_none (by simp [h.cut])
  simp [step, edit, dispatch, arbitrate, Arbiter.dispatch, hedit]

end Answers

/-! ## The close in a life -/

/-- Whatever happened before, a close cancels what is open and says farewell unless that was done.
Whatever the toolkit calls after it, nothing is told and no text is touched, no session is open
and none is to be had, and every question has its fixed answer. -/
theorem closing_is_final [Scalar K] (handle : WindowHandle) (attributes : Attributes K)
    (listener : Listener K) (turns more : List (Turn K)) :
    let life := live handle attributes listener turns
    let closing := (step .close).run life.state
    let rest := (Action.replay turn more).run closing.state
    let last := rest.state
    Effect.callbacks closing.effects =
        (life.state.arbiter.session? .drag).toList.map (fun n => .drag n (.ended .cancel)) ++
          (life.state.arbiter.session? .scroll).toList.map (fun n => .scroll n (.ended .cancel)) ++
          (if life.state.dispatcher.attached then [.closed] else []) ∧
      Effect.callbacks rest.effects = [] ∧
      Effect.accesses rest.effects = [] ∧
      (life.effects ++ closing.effects ++ rest.effects).filter Effect.cutsLine =
        [.callback .closed] ∧
      (∀ kind, last.arbiter.owner kind = .primary) ∧
      last.outstanding = 0 ∧
      (∀ p, (step (.beginScrollGesture p)).run last = ⟨.token none, last, []⟩) ∧
      (step .closeRequested).run last = ⟨.yesNo true, last, []⟩ ∧
      (∀ p, (step (.hitTest p)).run last = ⟨.hit .client, last, []⟩) ∧
      (step .hasComposingContext).run last = ⟨.yesNo false, last, []⟩ ∧
      ∀ c, (step (.text c)).run last = ⟨.text none, last, []⟩ := by
  intro life closing rest last
  have hclosing : closing.effects = (close.run life.state).effects := by
    simp [closing, step]
  have hlife := play_live handle attributes listener turns
  have hclose : Arbiter.Play (fun _ => True) life.state.arbiter closing.effects
      closing.state.arbiter :=
    (plays_step .close life.state).mono fun _ _ => trivial
  have hrest : Arbiter.Play (fun _ => True) closing.state.arbiter rest.effects last.arbiter :=
    plays_replay more closing.state
  have hsilent : closing.state.arbiter.Silent := by
    simpa [closing, step] using silent_close life.state
  rcases hrest.silent hsilent with ⟨hlast, hcalls, haccesses⟩
  refine ⟨?_, hcalls, haccesses, ?_, hlast.owner, ?_, run_beginScrollGesture_silent hlast,
    run_closeRequested_silent hlast, run_hitTest_silent hlast,
    run_hasComposingContext_silent hlast, run_text_silent hlast⟩
  · rw [hclosing]
    exact callbacks_close life.state
  · -- The farewell was to be said at the attaching, and is not to be said at the end.
    have hfarewell := ((hlife.trans hclose).trans hrest).farewell
    have hnone : last.arbiter.farewell = [] := by
      simp [Arbiter.farewell, hlast.cut]
    rw [hnone, List.append_nil] at hfarewell
    exact hfarewell
  · have hcoherent : last.arbiter.Coherent :=
      ((hlife.trans hclose).trans hrest).coherent (.initial handle.id listener)
    have hslots : last.arbiter.openSlots = 0 :=
      Arbiter.openSlots_eq_zero.2 ⟨hlast.noDrag, hlast.noScroll⟩
    rw [outstanding, dispatcher, hcoherent.balanced, hslots]

end Relay

end WindowRelay

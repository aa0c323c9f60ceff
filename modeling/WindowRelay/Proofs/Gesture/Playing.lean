import WindowRelay.Proofs.Gesture.Moves

/-!
# Playing — the operations of the arbiter are plays

Each operation is taken apart into its moves, by the cases of its definition.  On the way the
effects are sorted: an operation is in the *background* when it neither reports the pointer nor
cuts the line, and all operations are but the routing of pointer events and the close.
-/

namespace WindowRelay

/-! ## Reports -/

/-- What a callback can report of the pointer. -/
inductive PointerReport (K : Type)
  | motion (position : Point K)
  | button (position : Point K) (pressed : Bool) (button : MouseButton)
  deriving DecidableEq, Repr

def Callback.report? {K : Type} : Callback K → Option (PointerReport K)
  | .mouseMotion p => some (.motion p)
  | .drag _ (.motion p) => some (.motion p)
  | .mouseButton p pressed b => some (.button p pressed b)
  | _ => none

def PointerEvent.report {K : Type} (e : PointerEvent K) : PointerReport K :=
  match e.button with
  | none => .motion e.position
  | some b => .button e.position e.pressed b

namespace Effect

variable {K : Type} {e : Effect K}

def cutsLine : Effect K → Bool
  | .callback .closed => true
  | _ => false

def reportsPointer : Effect K → Bool
  | .callback c => c.report?.isSome
  | _ => false

def isBackground : Effect K → Bool
  | .callback .closed => false
  | .callback c => c.report?.isNone
  | _ => true

theorem cutsLine_of_isBackground (h : e.isBackground = true) : e.cutsLine = false := by
  unfold cutsLine
  split
  · cases h
  · rfl

theorem reportsPointer_of_isBackground (h : e.isBackground = true) :
    e.reportsPointer = false := by
  unfold isBackground at h
  split at h
  · cases h
  · simpa [reportsPointer] using h
  · unfold reportsPointer
    split <;> simp_all

theorem isBackground_of_isAside (h : e.isAside = true) : e.isBackground = true := by
  cases e with
  | callback c => simp [isAside] at h
  | access a => rfl
  | warning w => rfl

end Effect

/-! ## Actions that play -/

namespace Act

variable {K σ α β : Type} {P Q : Effect K → Prop} {view : σ → Arbiter K}

/-- Whatever the state, `m` plays on the arbiter in it. -/
def Plays (P : Effect K → Prop) (view : σ → Arbiter K) (m : Act K σ α) : Prop :=
  ∀ s, Arbiter.Play P (view s) (m.run s).effects (view (m.run s).state)

namespace Plays

theorem pure (x : α) : Plays P view (pure x : Act K σ α) := by
  intro s
  exact .nil (view s)

theorem bind {m : Act K σ α} {f : α → Act K σ β} (hm : Plays P view m)
    (hf : ∀ x, Plays P view (f x)) : Plays P view (m >>= f) := by
  intro s
  exact (hm s).trans (hf (m.run s).value (m.run s).state)

theorem get_bind {f : σ → Act K σ β}
    (hf : ∀ s, Arbiter.Play P (view s) ((f s).run s).effects (view ((f s).run s).state)) :
    Plays P view (get >>= f) := by
  intro s
  simpa using hf s

theorem modify {f : σ → σ} (hf : ∀ s, view (f s) = view s) :
    Plays P view (modify f : Act K σ Unit) := by
  intro s
  have hstill : Arbiter.Play P (view s) [] (view (f s)) := by
    rw [hf s]
    exact .nil (view s)
  exact hstill

theorem mono {m : Act K σ α} (h : Plays P view m) (hPQ : ∀ e, P e → Q e) : Plays Q view m := by
  intro s
  exact (h s).mono hPQ

end Plays

end Act

namespace Arbiter

open Act

variable {K : Type} {a : Arbiter K}

/-- A play in the background of the arbiter. -/
abbrev Background (a : Arbiter K) (es : List (Effect K)) (b : Arbiter K) : Prop :=
  Play (fun e => e.isBackground = true) a es b

theorem Background.single {b : Arbiter K} {es : List (Effect K)} (h : Move a es b)
    (fits : es.all Effect.isBackground = true) : a.Background es b :=
  Play.single h (by simpa using fits)

/-- An operation of the arbiter that plays in the background. -/
abbrev PlaysBackground {α : Type} (m : Act K (Arbiter K) α) : Prop :=
  Plays (fun e => e.isBackground = true) id m

/-! ## Runs of the small operations -/

theorem run_finishDrag_none (how : Ending) (h : a.drag.session = none) :
    (finishDrag how).run a = ⟨false, a, []⟩ := by
  simp [finishDrag, h]

theorem run_finishDrag_some {s : DragSession} (how : Ending) (h : a.drag.session = some s) :
    (finishDrag how).run a =
      ⟨true, { a.leave with drag := Slot.ended how s.token },
        [.callback (.drag s.capability.session (.ended how))]⟩ := by
  simp [finishDrag, h, dispatch, Capability.finish, Capability.terminal, leave]

theorem run_finishScroll_none (how : Ending) (h : a.scroll.session = none) :
    (finishScroll how).run a = ⟨false, a, []⟩ := by
  simp [finishScroll, h]

theorem run_finishScroll_release {s : ScrollSession} (h : a.scroll.session = some s) :
    (finishScroll .release).run a =
      ⟨true, { a.leave with scroll := Slot.ended .release s.token },
        [.callback (.scroll s.capability.session .finish),
          .callback (.scroll s.capability.session (.ended .release))]⟩ := by
  simp [finishScroll, h, dispatch, ScrollSession.finish, Capability.scroll, Capability.finish,
    Capability.terminal, leave]

theorem run_finishScroll_cancel {s : ScrollSession} (h : a.scroll.session = some s) :
    (finishScroll .cancel).run a =
      ⟨true, { a.leave with scroll := Slot.ended .cancel s.token },
        [.callback (.scroll s.capability.session (.ended .cancel))]⟩ := by
  simp [finishScroll, h, dispatch, ScrollSession.finish, Capability.finish, Capability.terminal,
    leave]

theorem run_notify_attached (c : Callback K) (h : a.dispatcher.attached = true) :
    (dispatch (Dispatcher.notify c)).run a = ⟨(), a, [.callback c]⟩ := by
  simp [dispatch, Dispatcher.notify, h]

theorem run_notify_detached (c : Callback K) (h : a.dispatcher.attached = false) :
    (dispatch (Dispatcher.notify c)).run a = ⟨(), a, []⟩ := by
  simp [dispatch, Dispatcher.notify, h]

/-- A callback to the listener changes nothing, whether or not it is made. -/
theorem state_notify (c : Callback K) (a : Arbiter K) :
    ((dispatch (Dispatcher.notify c)).run a).state = a := by
  cases hattached : a.dispatcher.attached with
  | false => rw [run_notify_detached c hattached]
  | true => rw [run_notify_attached c hattached]

theorem callbacks_notify (c : Callback K) (a : Arbiter K) :
    Effect.callbacks ((dispatch (Dispatcher.notify c)).run a).effects =
      if a.dispatcher.attached then [c] else [] := by
  cases hattached : a.dispatcher.attached with
  | false =>
      rw [run_notify_detached c hattached]
      rfl
  | true =>
      rw [run_notify_attached c hattached]
      rfl

/-! ## Ending gestures -/

theorem plays_finishScroll (how : Ending) : PlaysBackground (finishScroll how : Act K _ _) := by
  intro a
  cases hscroll : a.scroll.session with
  | none =>
      rw [run_finishScroll_none how hscroll]
      exact .nil a
  | some s =>
      cases how with
      | release =>
          rw [run_finishScroll_release hscroll]
          exact Background.single (.releaseScroll hscroll) rfl
      | cancel =>
          rw [run_finishScroll_cancel hscroll]
          exact Background.single (.cancelScroll hscroll) rfl

theorem plays_cancel (kind : SessionKind) : PlaysBackground (cancel kind : Act K _ _) := by
  cases kind with
  | drag =>
      intro a
      cases hdrag : a.drag.session with
      | none =>
          simp only [cancel, run_finishDrag_none .cancel hdrag]
          exact .nil a
      | some s =>
          simp only [cancel, run_finishDrag_some .cancel hdrag]
          exact Background.single (.cancelDrag hdrag) rfl
  | scroll =>
      exact plays_finishScroll .cancel

theorem plays_cancelAll : PlaysBackground (cancelAll : Act K _ _) :=
  .bind (plays_cancel .drag) fun _ => .bind (plays_cancel .scroll) fun _ => .pure ()

theorem plays_settleLifted : PlaysBackground (settleLifted : Act K _ _) := by
  refine .get_bind fun a => ?_
  by_cases hlifted : a.stage? = some .lifted
  · simp only [hlifted, if_true]
    exact Plays.bind (plays_finishScroll .release) (fun _ => .pure ()) a
  · simp only [hlifted, if_false]
    exact .nil a

/-! ## Pointer events -/

theorem plays_notify {P : Effect K → Prop} {c : Callback K} (plain : c.isPlain = true)
    (fits : P (.callback c)) : Plays P id (dispatch (Dispatcher.notify c)) := by
  intro a
  cases hattached : a.dispatcher.attached with
  | false =>
      rw [run_notify_detached c hattached]
      exact .nil a
  | true =>
      rw [run_notify_attached c hattached]
      exact .single (.tell c plain hattached) (by simpa using fits)

section Buttons

variable {s : DragSession} (p : Point K) {b : MouseButton}

/-- A press of a button that the drag already holds is not told to it. -/
theorem run_press_again (opensDrag : Bool) (h : a.drag.session = some s)
    (held : s.buttons.has b = true) : (press p b opensDrag).run a = ⟨(), a, []⟩ := by
  simp [press, h, held]

theorem run_press_more (opensDrag : Bool) (h : a.drag.session = some s)
    (fresh : s.buttons.has b = false) :
    (press p b opensDrag).run a =
      ⟨(), a.withDrag { s with buttons := s.buttons.insert b },
        [.callback (.drag s.capability.session (.mouseDown p b))]⟩ := by
  simp [press, h, fresh, dispatch, Capability.drag, withDrag]

theorem run_press_first (b : MouseButton) (h : a.drag.session = none)
    (attached : a.dispatcher.attached = true) :
    (press p b true).run a =
      ⟨(), { a.enter with
          drag := Slot.install ⟨a.token, a.capability .drag, Mask.single b⟩ a.token },
        [.callback (.beginDrag a.dispatcher.ledger.opened p b)]⟩ := by
  simp [press, h, attached, dispatch, Dispatcher.beginDrag, Dispatcher.openSession, nextToken,
    enter, token, capability]

theorem opens_or_refused (opensDrag : Bool) (a : Arbiter K) :
    (opensDrag = true ∧ a.dispatcher.attached = true) ∨
      opensDrag = false ∨ a.dispatcher.attached = false := by
  cases opensDrag <;> simp

/-- A first press opens no drag when drags are off or the line is cut. -/
theorem run_press_refused (b : MouseButton) {opensDrag : Bool} (h : a.drag.session = none)
    (refused : opensDrag = false ∨ a.dispatcher.attached = false) :
    (press p b opensDrag).run a = ⟨(), a, []⟩ := by
  rcases refused with rfl | cut
  · simp [press, h]
  · cases opensDrag with
    | false =>
        simp [press, h]
    | true =>
        simp [press, h, cut, dispatch, Dispatcher.beginDrag, Dispatcher.openSession]

theorem run_letGo_idle (b : MouseButton) (h : a.drag.session = none) :
    (letGo p b).run a = ⟨(), a, []⟩ := by
  simp [letGo, h]

theorem run_letGo_unseen (h : a.drag.session = some s) (unseen : s.buttons.has b = false) :
    (letGo p b).run a = ⟨(), a, []⟩ := by
  simp [letGo, h, unseen]

theorem run_letGo_more (h : a.drag.session = some s) (held : s.buttons.has b = true)
    (more : (s.buttons.erase b).isEmpty = false) :
    (letGo p b).run a =
      ⟨(), a.withDrag { s with buttons := s.buttons.erase b },
        [.callback (.drag s.capability.session (.mouseUp p b))]⟩ := by
  simp [letGo, h, held, more, dispatch, Capability.drag, withDrag]

theorem run_letGo_last (h : a.drag.session = some s) (held : s.buttons.has b = true)
    (last : (s.buttons.erase b).isEmpty = true) :
    (letGo p b).run a =
      ⟨(), { a.leave with drag := Slot.ended .release s.token },
        [.callback (.drag s.capability.session (.mouseUp p b)),
          .callback (.drag s.capability.session (.ended .release))]⟩ := by
  simp [letGo, h, held, last, dispatch, Capability.drag, finishDrag, Capability.finish,
    Capability.terminal, leave]

end Buttons

theorem plays_press (p : Point K) (b : MouseButton) (opensDrag : Bool) :
    PlaysBackground (press p b opensDrag) := by
  intro a
  cases hdrag : a.drag.session with
  | some s =>
      cases hheld : s.buttons.has b with
      | true =>
          rw [run_press_again p opensDrag hdrag hheld]
          exact .nil a
      | false =>
          rw [run_press_more p opensDrag hdrag hheld]
          exact Background.single (.mouseDown p b hdrag hheld) rfl
  | none =>
      rcases opens_or_refused opensDrag a with ⟨rfl, hattached⟩ | hrefused
      · rw [run_press_first p b hdrag hattached]
        exact Background.single (.beginDrag p b hattached hdrag) rfl
      · rw [run_press_refused p b hdrag hrefused]
        exact .nil a

theorem plays_letGo (p : Point K) (b : MouseButton) : PlaysBackground (letGo p b) := by
  intro a
  cases hdrag : a.drag.session with
  | none =>
      rw [run_letGo_idle p b hdrag]
      exact .nil a
  | some s =>
      cases hheld : s.buttons.has b with
      | false =>
          rw [run_letGo_unseen p hdrag hheld]
          exact .nil a
      | true =>
          cases hlast : (s.buttons.erase b).isEmpty with
          | false =>
              rw [run_letGo_more p hdrag hheld hlast]
              exact Background.single (.mouseUp p b hdrag hheld hlast) rfl
          | true =>
              -- Letting go and the release are one move, so no drag is left open without a button.
              rw [run_letGo_last p hdrag hheld hlast]
              exact Background.single (.lastUp p b hdrag hheld hlast) rfl

/-- Where motion goes: to the drag if one is open, and to the listener otherwise. -/
theorem run_motion_drag {s : DragSession} (p : Point K) (h : a.drag.session = some s) :
    (motion p).run a = ⟨(), a, [.callback (.drag s.capability.session (.motion p))]⟩ := by
  simp [motion, h, dispatch, Capability.drag]

theorem run_motion_listener (p : Point K) (h : a.drag.session = none) :
    (motion p).run a = (dispatch (Dispatcher.notify (.mouseMotion p))).run a := by
  simp [motion, h]

theorem plays_motion (p : Point K) : Plays (fun e => e.cutsLine = false) id (motion p) := by
  intro a
  cases hdrag : a.drag.session with
  | some s =>
      rw [run_motion_drag p hdrag]
      exact .single (.dragMotion p hdrag) (by simp [Effect.cutsLine])
  | none =>
      rw [run_motion_listener p hdrag]
      cases hattached : a.dispatcher.attached with
      | false =>
          rw [run_notify_detached _ hattached]
          exact .nil a
      | true =>
          rw [run_notify_attached _ hattached]
          exact .single (.mouseMotion p hattached hdrag) (by simp [Effect.cutsLine])

theorem plays_pointer (e : PointerEvent K) (dragGestures : Bool) :
    Plays (fun e => e.cutsLine = false) id (pointer e dragGestures) := by
  unfold pointer
  cases e.button with
  | none =>
      exact plays_motion e.position
  | some b =>
      refine .bind (plays_notify rfl rfl) fun _ => ?_
      cases e.pressed with
      | true =>
          exact (plays_press e.position b dragGestures).mono
            fun _ => Effect.cutsLine_of_isBackground
      | false =>
          exact (plays_letGo e.position b).mono fun _ => Effect.cutsLine_of_isBackground

/-! ## Scroll gestures -/

theorem run_openScroll_busy {s : ScrollSession} (p : Point K) (h : a.scroll.session = some s) :
    (openScroll p).run a = ⟨none, a, []⟩ := by
  simp [openScroll, h]

theorem run_openScroll_detached (p : Point K) (h : a.scroll.session = none)
    (cut : a.dispatcher.attached = false) : (openScroll p).run a = ⟨none, a, []⟩ := by
  simp [openScroll, h, cut, dispatch, Dispatcher.beginScroll, Dispatcher.openSession]

theorem run_openScroll_attached (p : Point K) (h : a.scroll.session = none)
    (attached : a.dispatcher.attached = true) :
    (openScroll p).run a =
      ⟨some a.token, { a.enter with
          scroll := Slot.install ⟨a.token, a.capability .scroll, .tracking, none⟩ a.token },
        [.callback (.beginScroll a.dispatcher.ledger.opened p)]⟩ := by
  simp [openScroll, h, attached, dispatch, Dispatcher.beginScroll, Dispatcher.openSession,
    nextToken, enter, token, capability]

theorem plays_beginScroll (p : Point K) : PlaysBackground (beginScroll p) := by
  refine .bind plays_settleLifted fun _ a => ?_
  cases hscroll : a.scroll.session with
  | some s =>
      rw [run_openScroll_busy p hscroll]
      exact .nil a
  | none =>
      cases hattached : a.dispatcher.attached with
      | false =>
          rw [run_openScroll_detached p hscroll hattached]
          exact .nil a
      | true =>
          rw [run_openScroll_attached p hscroll hattached]
          exact Background.single (.beginScroll p hattached hscroll) rfl

theorem run_settleLifted_lifted (lifted : a.stage? = some .lifted) :
    settleLifted.run a =
      ⟨(), ((finishScroll .release).run a).state, ((finishScroll .release).run a).effects⟩ := by
  simp [settleLifted, lifted]

theorem run_settleLifted_other (other : a.stage? ≠ some .lifted) :
    settleLifted.run a = ⟨(), a, []⟩ := by
  simp [settleLifted, other]

/-- With no gesture open there is nothing to settle. -/
theorem run_settleLifted_vacant (vacant : a.scroll.session = none) :
    settleLifted.run a = ⟨(), a, []⟩ :=
  run_settleLifted_other (by simp [stage?, vacant])

theorem stage_settleLifted (a : Arbiter K) : (settleLifted.run a).state.stage? ≠ some .lifted := by
  by_cases hlifted : a.stage? = some .lifted
  · rcases Option.map_eq_some_iff.1 hlifted with ⟨s, hs, -⟩
    simp only [settleLifted, Action.run_bind, Action.run_get, hlifted, if_true,
      run_finishScroll_release hs]
    simp [stage?, Slot.ended]
  · simp [settleLifted, hlifted]

theorem run_moveScroll_none [Scalar K] (precise : Bool) (d : Delta K) (t : Time)
    (h : a.scroll.session = none) : (moveScroll precise d t).run a = ⟨false, a, []⟩ := by
  simp [moveScroll, h]

theorem run_moveScroll_some [Scalar K] {s : ScrollSession} (precise : Bool) (d : Delta K) (t : Time)
    (h : a.scroll.session = some s) :
    (moveScroll precise d t).run a =
      ⟨true, a.withScroll (s.moved t),
        [.callback (.scroll s.capability.session (.motion precise d (s.velocity d t)))]⟩ := by
  simp [moveScroll, h, dispatch, Capability.scroll, withScroll]

theorem plays_scrollMotion [Scalar K] (precise : Bool) (d : Delta K) (t : Time) :
    PlaysBackground (scrollMotion precise d t) := by
  intro a
  -- The settling comes first, and leaves no lifted gesture for the motion to go to.
  simp only [scrollMotion, Action.run_bind]
  refine (plays_settleLifted a).trans ?_
  have hstage := stage_settleLifted a
  generalize (settleLifted.run a).state = b at hstage ⊢
  cases hscroll : b.scroll.session with
  | none =>
      rw [run_moveScroll_none precise d t hscroll]
      exact .nil b
  | some s =>
      have hmoving : s.stage ≠ .lifted := by
        intro hlifted
        exact hstage (by simp [stage?, hscroll, hlifted])
      rw [run_moveScroll_some precise d t hscroll]
      exact Background.single (.scrollMotion precise d (s.velocity d t) t hscroll hmoving) rfl

theorem run_advance_none {source target : ScrollStage} (h : a.stage? ≠ some source) :
    (advance source target).run a = ⟨none, a, []⟩ := by
  cases hscroll : a.scroll.session with
  | none =>
      simp [advance, hscroll]
  | some s =>
      have hstage : s.stage ≠ source := by
        intro hstage
        exact h (by simp [stage?, hscroll, hstage])
      simp [advance, hscroll, hstage]

theorem run_advance_some {s : ScrollSession} {source : ScrollStage} (target : ScrollStage)
    (h : a.scroll.session = some s) (hstage : s.stage = source) :
    (advance source target).run a = ⟨some s, a.withScroll { s with stage := target }, []⟩ := by
  simp [advance, h, hstage, withScroll]

theorem run_liftScroll_tracking {s : ScrollSession} (h : a.scroll.session = some s)
    (tracking : s.stage = .tracking) :
    liftScroll.run a = ⟨true, a.withScroll { s with stage := .lifted }, []⟩ := by
  simp [liftScroll, run_advance_some .lifted h tracking]

theorem run_liftScroll_other (other : a.stage? ≠ some .tracking) :
    liftScroll.run a = ⟨false, a, []⟩ := by
  simp [liftScroll, run_advance_none other]

theorem plays_liftScroll : PlaysBackground (liftScroll : Act K _ _) := by
  intro a
  by_cases htracking : a.stage? = some .tracking
  · rcases Option.map_eq_some_iff.1 htracking with ⟨s, hs, hstage⟩
    rw [run_liftScroll_tracking hs hstage]
    exact Background.single (.lift hs hstage) rfl
  · rw [run_liftScroll_other htracking]
    exact .nil a

theorem run_startMomentum_lifted {s : ScrollSession} (h : a.scroll.session = some s)
    (lifted : s.stage = .lifted) :
    startMomentum.run a =
      ⟨true, a.withScroll { s with stage := .momentum },
        [.callback (.scroll s.capability.session .startMomentum)]⟩ := by
  simp [startMomentum, run_advance_some .momentum h lifted, dispatch, Capability.scroll]

theorem run_startMomentum_other (other : a.stage? ≠ some .lifted) :
    startMomentum.run a = ⟨false, a, []⟩ := by
  simp [startMomentum, run_advance_none other]

theorem plays_startMomentum : PlaysBackground (startMomentum : Act K _ _) := by
  intro a
  by_cases hlifted : a.stage? = some .lifted
  · rcases Option.map_eq_some_iff.1 hlifted with ⟨s, hs, hstage⟩
    rw [run_startMomentum_lifted hs hstage]
    exact Background.single (.momentum hs hstage) rfl
  · rw [run_startMomentum_other hlifted]
    exact .nil a

/-! ## The close -/

theorem run_cancel_drag_vacant (a : Arbiter K) :
    ((cancel .drag).run a).state.drag.session = none := by
  cases hsession : a.drag.session with
  | none =>
      simp [cancel, run_finishDrag_none .cancel hsession, hsession]
  | some s =>
      simp [cancel, run_finishDrag_some .cancel hsession, Slot.ended]

theorem run_cancelAll_vacant (a : Arbiter K) :
    (cancelAll.run a).state.drag.session = none ∧
      (cancelAll.run a).state.scroll.session = none := by
  -- The second cancel leaves the drag slot as the first one made it.
  have hscroll (b : Arbiter K) :
      ((cancel .scroll).run b).state.scroll.session = none ∧
        ((cancel .scroll).run b).state.drag = b.drag := by
    cases hsession : b.scroll.session with
    | none =>
        simp [cancel, run_finishScroll_none .cancel hsession, hsession]
    | some s =>
        simp [cancel, run_finishScroll_cancel hsession, Slot.ended, leave]
  simp only [cancelAll, Action.run_bind, Action.run_pure]
  exact ⟨by rw [(hscroll _).2, run_cancel_drag_vacant], (hscroll _).1⟩

/-- The line is cut, which is safe when no gesture is open. -/
theorem play_closed (noDrag : a.drag.session = none) (noScroll : a.scroll.session = none) :
    Play (fun e => e.reportsPointer = false) a ((dispatch Dispatcher.closed).run a).effects
      ((dispatch Dispatcher.closed).run a).state := by
  cases hattached : a.dispatcher.attached with
  | false =>
      simp only [dispatch, Dispatcher.closed, hattached, Action.run_within, Action.run_bind,
        Action.run_get]
      exact .nil a
  | true =>
      have hplay : Play (fun e => e.reportsPointer = false) a _ _ :=
        .single (.cut hattached noDrag noScroll) (by
          intro e he
          rcases List.mem_cons.1 he with rfl | he
          · rfl
          · split at he <;> simp_all [Effect.reportsPointer])
      simpa [dispatch, Dispatcher.closed, hattached, cutLine] using hplay

end Arbiter

end WindowRelay

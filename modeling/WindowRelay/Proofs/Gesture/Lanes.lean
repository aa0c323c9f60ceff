import WindowRelay.Proofs.Gesture.Course
import WindowRelay.Proofs.Gesture.Mirroring

/-!
# Lanes — drags and scroll gestures beside each other

Each operation of the arbiter is on one side: it serves the drag and the pointer callbacks, or the
scroll gesture.  On linked arbiters it mirrors itself on its own side, and on the other side it is
not noticed, with or without a session that it opens.

- `Arbiter.Linked.drag_some`, `Arbiter.Linked.scroll_some`: linked arbiters have the same gesture
  open, up to its number.
- *The drag side*, *The scroll side*: the operations, sorted for one side and for the other.
-/

namespace WindowRelay

namespace Slot

variable {σ : Type} {f : Nat → Nat} {session : σ → σ}

@[simp]
theorem renumber_ended (how : Ending) (t : GestureToken) :
    (ended how t : Slot σ).renumber f session = ended how (t.renumber f) := by
  simp [renumber, ended]

@[simp]
theorem renumber_install (s : σ) (t : GestureToken) :
    (install s t).renumber f session = install (session s) (t.renumber f) :=
  rfl

end Slot

namespace Arbiter

open Act

variable {K α β : Type} {kind : SessionKind} {a b : Arbiter K} {f g : Nat → Nat}

/-! ## Either side -/

theorem Aside.bind_apart {m : Act K (Arbiter K) α} {k : α → Act K (Arbiter K) β}
    (hm : Aside kind m) (hk : ∀ x, Apart kind (k x)) : Apart kind (m >>= k) := by
  intro a
  rcases hm a with ⟨hframe, hlane, hcalls⟩
  rcases hk (m.run a).value (m.run a).state with ⟨⟨j, hframe'⟩, hlane', hcalls'⟩
  simp only [frame, frameAfter, Nat.add_zero, Prod.mk.injEq] at hframe
  rcases hframe with ⟨hline, hwindow, hopened, htoken⟩
  refine ⟨⟨j, ?_⟩, hlane'.trans hlane, ?_⟩
  · rw [Action.run_bind, hframe', frameAfter, hline, hwindow, hopened, htoken]
    rfl
  · rw [Action.run_bind, laneCalls_append, hcalls, hcalls', List.append_nil]

theorem aside_hear (kind : SessionKind) (l : Listener K) :
    Aside kind (modify fun a => a.hear l) := by
  intro a
  cases kind <;> exact ⟨rfl, rfl, rfl⟩

/-- Nothing that is told the listener is noticed on a side, unless it belongs there. -/
theorem aside_dispatch {m : Act K (Dispatcher K) α}
    (hm : Dispatcher.Tells (fun e => e.lane? ≠ some kind) m) : Aside kind (dispatch m) := by
  intro a
  rcases hm a.dispatcher with ⟨⟨l, hl⟩, hes⟩
  have hstate : ((dispatch m).run a).state = a.hear l :=
    congrArg (fun d => { a with dispatcher := d }) hl
  rw [hstate]
  refine ⟨rfl, ?_, laneCalls_eq_nil hes⟩
  cases kind <;> rfl

/-- The listener is told the same, if that bears no number. -/
theorem mirrors_notify {c : Callback K} (unnumbered : ∀ f, c.renumber f = c) :
    Mirrors (link kind) kind (Anyway Unit Unit) (dispatch (Dispatcher.notify c))
      (dispatch (Dispatcher.notify c)) := by
  intro f a b hab
  cases hattached : b.dispatcher.attached with
  | false =>
      refine hab.mirrorsAt (run_notify_detached c (hab.attached.trans hattached))
        (run_notify_detached c hattached) rfl rfl fun g hg => ⟨hab.lane g hg, trivial, rfl⟩
  | true =>
      refine hab.mirrorsAt (run_notify_attached c (hab.attached.trans hattached))
        (run_notify_attached c hattached) rfl rfl fun g hg => ⟨hab.lane g hg, trivial, ?_⟩
      by_cases hlane : c.lane? = some kind <;>
        simp [laneCalls, Effect.callbacks, Effect.callback?, hlane, unnumbered]

theorem mirrors_closed (kind : SessionKind) :
    Mirrors (link kind) kind (Anyway Unit Unit) (dispatch (K := K) Dispatcher.closed)
      (dispatch Dispatcher.closed) := by
  intro f a b hab
  cases hattached : b.dispatcher.attached with
  | false =>
      exact hab.mirrorsAt (run_closed_detached (hab.attached.trans hattached))
        (run_closed_detached hattached) rfl rfl fun g hg => ⟨hab.lane g hg, trivial, rfl⟩
  | true =>
      have hcut : Linked kind f a.cutLine b.cutLine :=
        { hab with
          attached := rfl
          lane := fun g hg => by
            have hlane := hab.lane g hg
            cases kind <;> exact hlane }
      -- The farewell goes with no gesture.
      have hwords (c : Arbiter K) : laneCalls kind c.lastWords = [] := by
        simp [laneCalls, callbacks_lastWords, Callback.lane?]
      unfold MirrorsAt
      rw [run_closed_attached (hab.attached.trans hattached), run_closed_attached hattached]
      refine ⟨f, .refl _ f, Nat.le_refl _, hcut, fun g _ => ⟨trivial, ?_⟩⟩
      rw [hwords, hwords]
      rfl

/-! ## The drag side -/

section Drag

namespace Linked

theorem drag_eq (h : Linked .drag f a b) (hg : Agree b.dispatcher.ledger.opened f g) :
    a.drag = b.drag.renumber g (DragSession.renumber g) :=
  Sum.inl.inj (h.lane g hg)

theorem drag_none (h : Linked .drag f a b) (hb : b.drag.session = none) :
    a.drag.session = none := by
  rw [h.drag_eq (.refl _ f), Slot.renumber, hb]
  rfl

theorem drag_some {s : DragSession} (h : Linked .drag f a b) (hb : b.drag.session = some s) :
    a.drag.session = some (s.renumber f) ∧
      ∀ g, Agree b.dispatcher.ledger.opened f g → s.renumber g = s.renumber f := by
  have hsession (g : Nat → Nat) (hg : Agree b.dispatcher.ledger.opened f g) :
      a.drag.session = some (s.renumber g) := by
    rw [h.drag_eq hg, Slot.renumber, hb]
    rfl
  refine ⟨hsession f (.refl _ f), fun g hg => ?_⟩
  exact Option.some.inj ((hsession g hg).symm.trans (hsession f (.refl _ f)))

theorem lane_withDrag (h : Linked .drag f a b) (hg : Agree b.dispatcher.ledger.opened f g)
    (s : DragSession) :
    (a.withDrag (s.renumber g)).lane .drag = (b.withDrag s).renumbered g .drag := by
  have hstate : a.drag.state = b.drag.state.renumber g :=
    congrArg Slot.state (h.drag_eq hg)
  simp [Arbiter.lane, renumbered, withDrag, Slot.renumber, hstate]

end Linked

theorem mirrors_finishDrag (how : Ending) :
    Mirrors (link .drag) .drag (Same Bool) (finishDrag (K := K) how) (finishDrag how) := by
  intro f a b hab
  cases hdrag : b.drag.session with
  | none =>
      exact hab.mirrorsAt (run_finishDrag_none how (hab.drag_none hdrag))
        (run_finishDrag_none how hdrag) rfl rfl fun g hg => ⟨hab.lane g hg, rfl, rfl⟩
  | some s =>
      rcases hab.drag_some hdrag with ⟨hdrag', hs⟩
      refine hab.mirrorsAt (run_finishDrag_some how hdrag') (run_finishDrag_some how hdrag) rfl rfl
        fun g hg => ?_
      rw [← hs g hg]
      exact ⟨by simp [lane, renumbered, DragSession.renumber], rfl, rfl⟩

theorem mirrors_press (p : Point K) (button : MouseButton) (opensDrag : Bool) :
    Mirrors (link .drag) .drag (Anyway Unit Unit) (press p button opensDrag)
      (press p button opensDrag) := by
  intro f a b hab
  cases hdrag : b.drag.session with
  | some s =>
      rcases hab.drag_some hdrag with ⟨hdrag', hs⟩
      cases hheld : s.buttons.has button with
      | true =>
          exact hab.mirrorsAt (run_press_again p opensDrag hdrag' hheld)
            (run_press_again p opensDrag hdrag hheld) rfl rfl
            fun g hg => ⟨hab.lane g hg, trivial, rfl⟩
      | false =>
          refine hab.mirrorsAt (run_press_more p opensDrag hdrag' hheld)
            (run_press_more p opensDrag hdrag hheld) rfl rfl fun g hg => ?_
          rw [← hs g hg]
          exact ⟨hab.lane_withDrag hg { s with buttons := s.buttons.insert button }, trivial, rfl⟩
  | none =>
      have hdrag' := hab.drag_none hdrag
      rcases opens_or_refused opensDrag b with ⟨rfl, hattached⟩ | hrefused
      · refine hab.mirrorsAt (run_press_first p button hdrag' (hab.attached.trans hattached))
          (run_press_first p button hdrag hattached) rfl rfl fun g hg => ?_
        -- The new session is the next one on both sides.
        have hnext : g b.dispatcher.ledger.opened = a.dispatcher.ledger.opened := by
          rw [hg _ (Nat.lt_succ_self _), hab.next]
        refine ⟨?_, trivial, ?_⟩
        · simp [lane, renumbered, DragSession.renumber, Capability.renumber, GestureToken.renumber,
            capability, token, hab.counted, hab.counted', hab.window, hnext]
        · simp [laneCalls, Effect.callbacks, Effect.callback?, Callback.lane?, Callback.renumber,
            hnext]
      · have hrefused' : opensDrag = false ∨ a.dispatcher.attached = false := by
          rwa [hab.attached]
        exact hab.mirrorsAt (run_press_refused p button hdrag' hrefused')
          (run_press_refused p button hdrag hrefused) rfl rfl
          fun g hg => ⟨hab.lane g hg, trivial, rfl⟩

theorem mirrors_letGo (p : Point K) (button : MouseButton) :
    Mirrors (link .drag) .drag (Anyway Unit Unit) (letGo p button) (letGo p button) := by
  intro f a b hab
  cases hdrag : b.drag.session with
  | none =>
      exact hab.mirrorsAt (run_letGo_idle p button (hab.drag_none hdrag))
        (run_letGo_idle p button hdrag) rfl rfl fun g hg => ⟨hab.lane g hg, trivial, rfl⟩
  | some s =>
      rcases hab.drag_some hdrag with ⟨hdrag', hs⟩
      cases hheld : s.buttons.has button with
      | false =>
          exact hab.mirrorsAt (run_letGo_unseen p hdrag' hheld) (run_letGo_unseen p hdrag hheld)
            rfl rfl fun g hg => ⟨hab.lane g hg, trivial, rfl⟩
      | true =>
          cases hlast : (s.buttons.erase button).isEmpty with
          | false =>
              refine hab.mirrorsAt (run_letGo_more p hdrag' hheld hlast)
                (run_letGo_more p hdrag hheld hlast) rfl rfl fun g hg => ?_
              rw [← hs g hg]
              exact ⟨hab.lane_withDrag hg { s with buttons := s.buttons.erase button }, trivial, rfl⟩
          | true =>
              refine hab.mirrorsAt (run_letGo_last p hdrag' hheld hlast)
                (run_letGo_last p hdrag hheld hlast) rfl rfl fun g hg => ?_
              rw [← hs g hg]
              exact ⟨by simp [lane, renumbered, DragSession.renumber], trivial, rfl⟩

theorem mirrors_motion (p : Point K) :
    Mirrors (link .drag) .drag (Anyway Unit Unit) (motion p) (motion p) := by
  intro f a b hab
  cases hdrag : b.drag.session with
  | some s =>
      rcases hab.drag_some hdrag with ⟨hdrag', hs⟩
      refine hab.mirrorsAt (run_motion_drag p hdrag') (run_motion_drag p hdrag) rfl rfl
        fun g hg => ⟨hab.lane g hg, trivial, ?_⟩
      rw [← hs g hg]
      rfl
  | none =>
      have htell : Mirrors (link .drag) .drag (Anyway Unit Unit)
          (dispatch (Dispatcher.notify (.mouseMotion p)))
          (dispatch (Dispatcher.notify (.mouseMotion p))) :=
        mirrors_notify fun _ => rfl
      have htell := htell f a b hab
      unfold MirrorsAt at htell ⊢
      rwa [run_motion_listener p (hab.drag_none hdrag), run_motion_listener p hdrag]

theorem mirrors_pointer (e : PointerEvent K) (dragGestures : Bool) :
    Mirrors (link .drag) .drag (Anyway Unit Unit) (pointer e dragGestures)
      (pointer e dragGestures) := by
  unfold pointer
  cases e.button with
  | none =>
      exact mirrors_motion e.position
  | some b =>
      refine .bind (mirrors_notify fun _ => rfl) fun _ _ _ => ?_
      cases e.pressed with
      | true => exact mirrors_press e.position b dragGestures
      | false => exact mirrors_letGo e.position b

/-! ### Seen from the scroll side -/

theorem aside_finishDrag (how : Ending) : Aside .scroll (finishDrag (K := K) how) := by
  intro a
  cases hdrag : a.drag.session with
  | none =>
      rw [run_finishDrag_none how hdrag]
      exact ⟨rfl, rfl, rfl⟩
  | some s =>
      rw [run_finishDrag_some how hdrag]
      exact ⟨rfl, rfl, rfl⟩

theorem apart_press (p : Point K) (button : MouseButton) (opensDrag : Bool) :
    Apart .scroll (press p button opensDrag) := by
  intro a
  cases hdrag : a.drag.session with
  | some s =>
      cases hheld : s.buttons.has button with
      | true =>
          rw [run_press_again p opensDrag hdrag hheld]
          exact ⟨⟨0, rfl⟩, rfl, rfl⟩
      | false =>
          rw [run_press_more p opensDrag hdrag hheld]
          exact ⟨⟨0, rfl⟩, rfl, rfl⟩
  | none =>
      rcases opens_or_refused opensDrag a with ⟨rfl, hattached⟩ | hrefused
      · rw [run_press_first p button hdrag hattached]
        exact ⟨⟨1, rfl⟩, rfl, rfl⟩
      · rw [run_press_refused p button hdrag hrefused]
        exact ⟨⟨0, rfl⟩, rfl, rfl⟩

theorem aside_letGo (p : Point K) (button : MouseButton) : Aside .scroll (letGo p button) := by
  intro a
  cases hdrag : a.drag.session with
  | none =>
      rw [run_letGo_idle p button hdrag]
      exact ⟨rfl, rfl, rfl⟩
  | some s =>
      cases hheld : s.buttons.has button with
      | false =>
          rw [run_letGo_unseen p hdrag hheld]
          exact ⟨rfl, rfl, rfl⟩
      | true =>
          cases hlast : (s.buttons.erase button).isEmpty with
          | false =>
              rw [run_letGo_more p hdrag hheld hlast]
              exact ⟨rfl, rfl, rfl⟩
          | true =>
              rw [run_letGo_last p hdrag hheld hlast]
              exact ⟨rfl, rfl, rfl⟩

theorem aside_motion (p : Point K) : Aside .scroll (motion p) := by
  intro a
  cases hdrag : a.drag.session with
  | some s =>
      rw [run_motion_drag p hdrag]
      exact ⟨rfl, rfl, rfl⟩
  | none =>
      rw [run_motion_listener p hdrag]
      exact aside_dispatch (Dispatcher.tells_notify (by simp [Effect.lane?, Callback.lane?])) a

theorem apart_pointer (e : PointerEvent K) (dragGestures : Bool) :
    Apart .scroll (pointer e dragGestures) := by
  unfold pointer
  cases e.button with
  | none =>
      exact (aside_motion e.position).apart
  | some b =>
      refine Aside.bind_apart
        (aside_dispatch (Dispatcher.tells_notify (by simp [Effect.lane?, Callback.lane?])))
        fun _ => ?_
      cases e.pressed with
      | true => exact apart_press e.position b dragGestures
      | false => exact (aside_letGo e.position b).apart

end Drag

/-! ## The scroll side -/

section Scroll

namespace Linked

theorem scroll_eq (h : Linked .scroll f a b) (hg : Agree b.dispatcher.ledger.opened f g) :
    a.scroll = b.scroll.renumber g (ScrollSession.renumber g) :=
  Sum.inr.inj (h.lane g hg)

theorem scroll_none (h : Linked .scroll f a b) (hb : b.scroll.session = none) :
    a.scroll.session = none := by
  rw [h.scroll_eq (.refl _ f), Slot.renumber, hb]
  rfl

theorem scroll_some {s : ScrollSession} (h : Linked .scroll f a b)
    (hb : b.scroll.session = some s) :
    a.scroll.session = some (s.renumber f) ∧
      ∀ g, Agree b.dispatcher.ledger.opened f g → s.renumber g = s.renumber f := by
  have hsession (g : Nat → Nat) (hg : Agree b.dispatcher.ledger.opened f g) :
      a.scroll.session = some (s.renumber g) := by
    rw [h.scroll_eq hg, Slot.renumber, hb]
    rfl
  refine ⟨hsession f (.refl _ f), fun g hg => ?_⟩
  exact Option.some.inj ((hsession g hg).symm.trans (hsession f (.refl _ f)))

theorem stage (h : Linked .scroll f a b) : a.stage? = b.stage? := by
  cases hscroll : b.scroll.session with
  | none =>
      rw [stage?, stage?, h.scroll_none hscroll, hscroll]
  | some s =>
      rw [stage?, stage?, (h.scroll_some hscroll).1, hscroll]
      rfl

theorem lane_withScroll (h : Linked .scroll f a b) (hg : Agree b.dispatcher.ledger.opened f g)
    (s : ScrollSession) :
    (a.withScroll (s.renumber g)).lane .scroll = (b.withScroll s).renumbered g .scroll := by
  have hstate : a.scroll.state = b.scroll.state.renumber g :=
    congrArg Slot.state (h.scroll_eq hg)
  simp [Arbiter.lane, renumbered, withScroll, Slot.renumber, hstate]

end Linked

theorem mirrors_finishScroll (how : Ending) :
    Mirrors (link .scroll) .scroll (Same Bool) (finishScroll (K := K) how) (finishScroll how) := by
  intro f a b hab
  cases hscroll : b.scroll.session with
  | none =>
      exact hab.mirrorsAt (run_finishScroll_none how (hab.scroll_none hscroll))
        (run_finishScroll_none how hscroll) rfl rfl fun g hg => ⟨hab.lane g hg, rfl, rfl⟩
  | some s =>
      rcases hab.scroll_some hscroll with ⟨hscroll', hs⟩
      cases how with
      | release =>
          refine hab.mirrorsAt (run_finishScroll_release hscroll')
            (run_finishScroll_release hscroll) rfl rfl fun g hg => ?_
          rw [← hs g hg]
          exact ⟨by simp [lane, renumbered, ScrollSession.renumber], rfl, rfl⟩
      | cancel =>
          refine hab.mirrorsAt (run_finishScroll_cancel hscroll')
            (run_finishScroll_cancel hscroll) rfl rfl fun g hg => ?_
          rw [← hs g hg]
          exact ⟨by simp [lane, renumbered, ScrollSession.renumber], rfl, rfl⟩

theorem mirrors_settleLifted :
    Mirrors (link .scroll) .scroll (Anyway Unit Unit) (settleLifted (K := K)) settleLifted := by
  refine .get_bind fun f a b hab => ?_
  -- Linked arbiters have a lifted gesture both or neither.
  rw [hab.stage]
  split
  · exact Mirrors.bind (mirrors_finishScroll .release) (fun _ _ _ => .done () ()) f a b hab
  · exact Mirrors.done () () f a b hab

theorem mirrors_openScroll (p : Point K) :
    Mirrors (link .scroll) .scroll (fun f x y => x = y.map (GestureToken.renumber f)) (openScroll p)
      (openScroll p) := by
  intro f a b hab
  cases hscroll : b.scroll.session with
  | some s =>
      exact hab.mirrorsAt (run_openScroll_busy p (hab.scroll_some hscroll).1)
        (run_openScroll_busy p hscroll) rfl rfl fun g hg => ⟨hab.lane g hg, rfl, rfl⟩
  | none =>
      have hscroll' := hab.scroll_none hscroll
      cases hattached : b.dispatcher.attached with
      | false =>
          exact hab.mirrorsAt
            (run_openScroll_detached p hscroll' (hab.attached.trans hattached))
            (run_openScroll_detached p hscroll hattached) rfl rfl
            fun g hg => ⟨hab.lane g hg, rfl, rfl⟩
      | true =>
          refine hab.mirrorsAt
            (run_openScroll_attached p hscroll' (hab.attached.trans hattached))
            (run_openScroll_attached p hscroll hattached) rfl rfl fun g hg => ?_
          have hnext : g b.dispatcher.ledger.opened = a.dispatcher.ledger.opened := by
            rw [hg _ (Nat.lt_succ_self _), hab.next]
          have htoken : a.token = b.token.renumber g := by
            simp [token, GestureToken.renumber, hab.counted, hab.counted', hnext]
          refine ⟨?_, congrArg some htoken, ?_⟩
          · simp [lane, renumbered, ScrollSession.renumber, Capability.renumber, capability,
              hab.window, hnext, htoken]
          · simp [laneCalls, Effect.callbacks, Effect.callback?, Callback.lane?, Callback.renumber,
              hnext]

theorem mirrors_beginScroll (p : Point K) :
    Mirrors (link .scroll) .scroll (fun f x y => x = y.map (GestureToken.renumber f))
      (beginScroll p) (beginScroll p) :=
  .bind mirrors_settleLifted fun _ _ _ => mirrors_openScroll p

theorem mirrors_scrollMotion [Scalar K] (precise : Bool) (d : Delta K) (t : Time) :
    Mirrors (link .scroll) .scroll (Same Bool) (scrollMotion precise d t)
      (scrollMotion precise d t) := by
  refine .bind mirrors_settleLifted fun _ _ _ f a b hab => ?_
  cases hscroll : b.scroll.session with
  | none =>
      exact hab.mirrorsAt (run_moveScroll_none precise d t (hab.scroll_none hscroll))
        (run_moveScroll_none precise d t hscroll) rfl rfl fun g hg => ⟨hab.lane g hg, rfl, rfl⟩
  | some s =>
      rcases hab.scroll_some hscroll with ⟨hscroll', hs⟩
      refine hab.mirrorsAt (run_moveScroll_some precise d t hscroll')
        (run_moveScroll_some precise d t hscroll) rfl rfl fun g hg => ?_
      rw [← hs g hg]
      exact ⟨hab.lane_withScroll hg (s.moved t), rfl, rfl⟩

theorem mirrors_liftScroll :
    Mirrors (link .scroll) .scroll (Same Bool) (liftScroll (K := K)) liftScroll := by
  intro f a b hab
  by_cases htracking : b.stage? = some .tracking
  · rcases Option.map_eq_some_iff.1 htracking with ⟨s, hscroll, hstage⟩
    rcases hab.scroll_some hscroll with ⟨hscroll', hs⟩
    refine hab.mirrorsAt (run_liftScroll_tracking hscroll' hstage)
      (run_liftScroll_tracking hscroll hstage) rfl rfl fun g hg => ?_
    rw [← hs g hg]
    exact ⟨hab.lane_withScroll hg { s with stage := .lifted }, rfl, rfl⟩
  · have htracking' : a.stage? ≠ some .tracking := by
      rwa [hab.stage]
    exact hab.mirrorsAt (run_liftScroll_other htracking') (run_liftScroll_other htracking) rfl rfl
      fun g hg => ⟨hab.lane g hg, rfl, rfl⟩

theorem mirrors_startMomentum :
    Mirrors (link .scroll) .scroll (Same Bool) (startMomentum (K := K)) startMomentum := by
  intro f a b hab
  by_cases hlifted : b.stage? = some .lifted
  · rcases Option.map_eq_some_iff.1 hlifted with ⟨s, hscroll, hstage⟩
    rcases hab.scroll_some hscroll with ⟨hscroll', hs⟩
    refine hab.mirrorsAt (run_startMomentum_lifted hscroll' hstage)
      (run_startMomentum_lifted hscroll hstage) rfl rfl fun g hg => ?_
    rw [← hs g hg]
    exact ⟨hab.lane_withScroll hg { s with stage := .momentum }, rfl, rfl⟩
  · have hlifted' : a.stage? ≠ some .lifted := by
      rwa [hab.stage]
    exact hab.mirrorsAt (run_startMomentum_other hlifted') (run_startMomentum_other hlifted) rfl rfl
      fun g hg => ⟨hab.lane g hg, rfl, rfl⟩

/-! ### Seen from the drag side -/

theorem aside_finishScroll (how : Ending) : Aside .drag (finishScroll (K := K) how) := by
  intro a
  cases hscroll : a.scroll.session with
  | none =>
      rw [run_finishScroll_none how hscroll]
      exact ⟨rfl, rfl, rfl⟩
  | some s =>
      cases how with
      | release =>
          rw [run_finishScroll_release hscroll]
          exact ⟨rfl, rfl, rfl⟩
      | cancel =>
          rw [run_finishScroll_cancel hscroll]
          exact ⟨rfl, rfl, rfl⟩

theorem aside_settleLifted : Aside .drag (settleLifted (K := K)) := by
  intro a
  by_cases hlifted : a.stage? = some .lifted
  · rw [run_settleLifted_lifted hlifted]
    exact aside_finishScroll .release a
  · rw [run_settleLifted_other hlifted]
    exact ⟨rfl, rfl, rfl⟩

theorem apart_beginScroll (p : Point K) : Apart .drag (beginScroll p) := by
  refine Aside.bind_apart aside_settleLifted fun _ a => ?_
  cases hscroll : a.scroll.session with
  | some s =>
      rw [run_openScroll_busy p hscroll]
      exact ⟨⟨0, rfl⟩, rfl, rfl⟩
  | none =>
      cases hattached : a.dispatcher.attached with
      | false =>
          rw [run_openScroll_detached p hscroll hattached]
          exact ⟨⟨0, rfl⟩, rfl, rfl⟩
      | true =>
          rw [run_openScroll_attached p hscroll hattached]
          exact ⟨⟨1, rfl⟩, rfl, rfl⟩

theorem aside_scrollMotion [Scalar K] (precise : Bool) (d : Delta K) (t : Time) :
    Aside .drag (scrollMotion precise d t) := by
  refine aside_settleLifted.bind fun _ a => ?_
  cases hscroll : a.scroll.session with
  | none =>
      rw [run_moveScroll_none precise d t hscroll]
      exact ⟨rfl, rfl, rfl⟩
  | some s =>
      rw [run_moveScroll_some precise d t hscroll]
      exact ⟨rfl, rfl, rfl⟩

theorem aside_liftScroll : Aside .drag (liftScroll (K := K)) := by
  intro a
  by_cases htracking : a.stage? = some .tracking
  · rcases Option.map_eq_some_iff.1 htracking with ⟨s, hscroll, hstage⟩
    rw [run_liftScroll_tracking hscroll hstage]
    exact ⟨rfl, rfl, rfl⟩
  · rw [run_liftScroll_other htracking]
    exact ⟨rfl, rfl, rfl⟩

theorem aside_startMomentum : Aside .drag (startMomentum (K := K)) := by
  intro a
  by_cases hlifted : a.stage? = some .lifted
  · rcases Option.map_eq_some_iff.1 hlifted with ⟨s, hscroll, hstage⟩
    rw [run_startMomentum_lifted hscroll hstage]
    exact ⟨rfl, rfl, rfl⟩
  · rw [run_startMomentum_other hlifted]
    exact ⟨rfl, rfl, rfl⟩

end Scroll

/-! ## All gestures at once -/

theorem mirrors_cancelAll (kind : SessionKind) :
    Mirrors (link kind) kind (Anyway Unit Unit) (cancelAll (K := K)) cancelAll := by
  cases kind with
  | drag =>
      exact .bind (mirrors_finishDrag .cancel) fun _ _ _ =>
        .bind ((aside_finishScroll .cancel).mirrors (aside_finishScroll .cancel)) fun _ _ _ => .done () ()
  | scroll =>
      exact .bind ((aside_finishDrag .cancel).mirrors (aside_finishDrag .cancel)) fun _ _ _ =>
        .bind (mirrors_finishScroll .cancel) fun _ _ _ => .done () ()

end Arbiter
end WindowRelay

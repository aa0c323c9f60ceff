import WindowRelay.Proofs.Exact
import WindowRelay.Proofs.Gesture.Frames
import WindowRelay.Proofs.Gesture.Lanes
import WindowRelay.Proofs.Gesture.Settling
import WindowRelay.Proofs.Relay.Turns

/-!
# Settling — the calls that settle a lifted gesture first

Some calls of a window begin by ending the scroll gesture that waits for momentum, and then do what
they are for, if that comes to anything.  What they do then finds nothing lifted, so it is the same
whether the gestures were flushed before the call or not.

- `Relay.SettlesFirst`: an operation that begins by settling, and `Relay.SettlesFirst.run_eq`, what
  comes of settling before it.
- `Relay.Call.settlesFirst`: the calls that do.
- `Relay.scroll_step`: what becomes of the slot of the scroll gesture in such a call.
- `Relay.lifted_gesture_is_settled_first`: all of this in a life.
-/

namespace WindowRelay
namespace Relay

open Act

variable {K α β : Type} {r : Relay K} {P : Effect K → Prop}

/-! ## Settling first -/

/-- The operation begins by settling a lifted gesture. -/
def SettlesFirst (m : Act K (Relay K) α) : Prop :=
  ∃ f, m = arbitrate Arbiter.settleLifted >>= f

namespace SettlesFirst

theorem bind {m : Act K (Relay K) α} (h : SettlesFirst m) (k : α → Act K (Relay K) β) :
    SettlesFirst (m >>= k) := by
  rcases h with ⟨f, rfl⟩
  exact ⟨fun x => f x >>= k, bind_assoc _ f k⟩

end SettlesFirst

theorem arbitrate_bind (m : Act K (Arbiter K) α) (k : α → Act K (Arbiter K) β) :
    arbitrate (m >>= k) = arbitrate m >>= fun x => arbitrate (k x) :=
  rfl

theorem settlesFirst_arbitrate (k : Unit → Act K (Arbiter K) α) :
    SettlesFirst (arbitrate (Arbiter.settleLifted >>= k)) :=
  ⟨_, arbitrate_bind Arbiter.settleLifted k⟩

theorem settlesFirst_pointer (e : PointerEvent K) : SettlesFirst (pointer e) :=
  ⟨_, rfl⟩

theorem settlesFirst_pointerLeft : SettlesFirst (pointerLeft : Act K (Relay K) Unit) :=
  ⟨_, rfl⟩

theorem settlesFirst_scroll [Scalar K] (input : ScrollInput K) : SettlesFirst (scroll input) :=
  ⟨_, rfl⟩

/-! ## Settling twice -/

/-- There is nothing left to settle. -/
theorem run_settle_again (r : Relay K) :
    let settled := ((arbitrate Arbiter.settleLifted).run r).state
    (arbitrate Arbiter.settleLifted).run settled = ⟨(), settled, []⟩ := by
  simp [arbitrate, Arbiter.run_settleLifted_other (Arbiter.stage_settleLifted r.arbiter)]

/-- It makes no difference to such an operation whether the settling was done before. -/
theorem SettlesFirst.run_eq {m : Act K (Relay K) α} (h : SettlesFirst m) (r : Relay K) :
    let settled := (arbitrate Arbiter.settleLifted).run r
    let after := m.run settled.state
    m.run r = ⟨after.value, after.state, settled.effects ++ after.effects⟩ := by
  rcases h with ⟨f, rfl⟩
  simp only [Action.run_bind, run_settle_again, List.nil_append]

/-- What follows the settling of a lifted gesture is a course. -/
theorem SettlesFirst.settles {m : Act K (Relay K) α} (h : SettlesFirst m)
    (plays : Plays P Relay.arbiter m) (lifted : r.arbiter.stage? = some .lifted) :
    Settles .release Relay.arbiter m r := by
  let settled : Relay K :=
    { r with arbiter := ((Arbiter.finishScroll .release).run r.arbiter).state }
  have hfirst : (arbitrate Arbiter.settleLifted).run r =
      ⟨(), settled, ((Arbiter.finishScroll .release).run r.arbiter).effects⟩ := by
    simp [arbitrate, Arbiter.run_settleLifted_lifted lifted, settled]
  have hrun := h.run_eq r
  rw [hfirst] at hrun
  refine ⟨(m.run settled).effects, congrArg Outcome.effects hrun, ?_⟩
  rw [hrun]
  exact (plays settled).course

theorem settles_pointer (e : PointerEvent K) (lifted : r.arbiter.stage? = some .lifted) :
    Settles .release Relay.arbiter (pointer e) r :=
  (settlesFirst_pointer e).settles (plays_pointer e) lifted

theorem settles_pointerLeft (lifted : r.arbiter.stage? = some .lifted) :
    Settles .release Relay.arbiter (pointerLeft : Act K (Relay K) Unit) r :=
  settlesFirst_pointerLeft.settles (P := fun e => e.isBackground = true)
    (.bind (plays_arbitrate Arbiter.plays_settleLifted) fun _ => plays_notify rfl rfl) lifted

theorem settles_scroll [Scalar K] (input : ScrollInput K)
    (lifted : r.arbiter.stage? = some .lifted) : Settles .release Relay.arbiter (scroll input) r :=
  (settlesFirst_scroll input).settles (plays_scroll input) lifted

theorem settles_beginScroll (p : Point K) (lifted : r.arbiter.stage? = some .lifted) :
    Settles .release Relay.arbiter (arbitrate (Arbiter.beginScroll p)) r :=
  (settlesFirst_arbitrate _).settles (plays_arbitrate (Arbiter.plays_beginScroll p)) lifted

theorem settles_scrollMotion [Scalar K] (precise : Bool) (d : Delta K) (t : Time)
    (lifted : r.arbiter.stage? = some .lifted) :
    Settles .release Relay.arbiter (arbitrate (Arbiter.scrollMotion precise d t)) r :=
  (settlesFirst_arbitrate _).settles (plays_arbitrate (Arbiter.plays_scrollMotion precise d t))
    lifted

theorem settles_cancelScroll (r : Relay K) :
    Settles .cancel Relay.arbiter (arbitrate (Arbiter.cancel .scroll)) r :=
  ⟨[], (List.append_nil _).symm, .nil _⟩

/-! ## The slot of the scroll gesture -/

abbrev scrollSlot (r : Relay K) : Slot ScrollSession :=
  r.arbiter.scroll

theorem keeps_scroll_arbitrate {m : Act K (Arbiter K) α} (h : Keeps Arbiter.scroll m) :
    Keeps scrollSlot (arbitrate m) := by
  intro r
  exact h r.arbiter

theorem keeps_scroll_dispatch (m : Act K (Dispatcher K) α) : Keeps scrollSlot (dispatch m) := by
  intro r
  rfl

theorem keeps_scroll_route (e : PointerEvent K) : Keeps scrollSlot (route e) := by
  refine .bind (.modify fun r => ?_) fun _ => .bind (fun r => rfl) fun attributes => ?_
  · unfold hold
    split <;> rfl
  · refine keeps_scroll_arbitrate fun a => ?_
    exact Sum.inr.inj (Arbiter.apart_pointer e attributes.dragGestures a).2.1

theorem keeps_scroll_trackScroll [Scalar K] (input : ScrollInput K) :
    Keeps scrollSlot (trackScroll input) := by
  intro r
  rfl

theorem run_settle_vacant (vacant : r.arbiter.scroll.session = none) :
    (arbitrate Arbiter.settleLifted).run r = ⟨(), r, []⟩ := by
  simp [arbitrate, Arbiter.run_settleLifted_vacant vacant]

/-- With no gesture open there is nothing to settle. -/
theorem run_first_vacant {f : Unit → Act K (Relay K) α} (vacant : r.arbiter.scroll.session = none) :
    (arbitrate Arbiter.settleLifted >>= f).run r = (f ()).run r := by
  rw [Action.run_bind, run_settle_vacant vacant]
  rfl

theorem scroll_of_keeps {f : Unit → Act K (Relay K) α} (keeps : ∀ x, Keeps scrollSlot (f x))
    (vacant : r.arbiter.scroll.session = none) :
    ((arbitrate Arbiter.settleLifted >>= f).run r).state.arbiter.scroll = r.arbiter.scroll := by
  rw [run_first_vacant vacant]
  exact keeps () r

theorem scroll_pointer (e : PointerEvent K) (vacant : r.arbiter.scroll.session = none) :
    ((pointer e).run r).state.arbiter.scroll = r.arbiter.scroll := by
  refine scroll_of_keeps (fun _ => .get_bind fun r => ?_) vacant
  refine Keeps.bind (.warnIf _ _) (fun _ => ?_) r
  cases e.primary? with
  | none => exact .pure ()
  | some e => exact keeps_scroll_route e

theorem scroll_pointerLeft (vacant : r.arbiter.scroll.session = none) :
    ((pointerLeft : Act K (Relay K) Unit).run r).state.arbiter.scroll = r.arbiter.scroll :=
  scroll_of_keeps (fun _ => keeps_scroll_dispatch _) vacant

theorem scroll_scroll [Scalar K] (input : ScrollInput K)
    (vacant : r.arbiter.scroll.session = none) :
    ((scroll input).run r).state.arbiter.scroll = r.arbiter.scroll := by
  refine scroll_of_keeps (fun _ => .bind (keeps_scroll_trackScroll input) fun event => ?_) vacant
  cases event with
  | none => exact .pure ()
  | some e => exact keeps_scroll_dispatch _

theorem run_beginScroll_vacant (p : Point K) (vacant : r.arbiter.scroll.session = none) :
    let opened := (Arbiter.openScroll p).run r.arbiter
    (arbitrate (Arbiter.beginScroll p)).run r =
      ⟨opened.value, { r with arbiter := opened.state }, opened.effects⟩ := by
  rw [Arbiter.beginScroll, arbitrate_bind, run_first_vacant vacant]
  rfl

theorem run_scrollMotion_vacant [Scalar K] (precise : Bool) (d : Delta K) (t : Time)
    (vacant : r.arbiter.scroll.session = none) :
    (arbitrate (Arbiter.scrollMotion precise d t)).run r = ⟨false, r, []⟩ := by
  rw [Arbiter.scrollMotion, arbitrate_bind, run_first_vacant vacant, arbitrate, Action.run_within,
    Arbiter.run_moveScroll_none precise d t vacant]

/-! ## Calls -/

/-- The calls that settle a lifted gesture before they do anything else. -/
def Call.settlesFirst : Call K → Bool
  | .pointer _ | .pointerLeft | .scroll _ => true
  | .beginScrollGesture _ | .scrollGestureMotion _ _ _ | .flushGestures => true
  | _ => false

section Calls

variable [Scalar K] {c : Call K}

theorem settlesFirst_step (first : c.settlesFirst = true) : SettlesFirst (step c) := by
  cases c with
  | pointer e => exact (settlesFirst_pointer e).bind _
  | pointerLeft => exact settlesFirst_pointerLeft.bind _
  | scroll input => exact (settlesFirst_scroll input).bind _
  | beginScrollGesture p => exact (settlesFirst_arbitrate _).bind _
  | scrollGestureMotion precise d t => exact (settlesFirst_arbitrate _).bind _
  | flushGestures => exact ⟨_, rfl⟩
  | _ => cases first

theorem run_flush (r : Relay K) :
    let settled := (arbitrate Arbiter.settleLifted).run r
    (step .flushGestures).run r = ⟨.done, settled.state, settled.effects⟩ := by
  simp [step]

/-- A call that settles first is a flush and then the call. -/
theorem run_step_flushed (first : c.settlesFirst = true) (r : Relay K) :
    let flushed := (step .flushGestures).run r
    let after := (step c).run flushed.state
    (step c).run r = ⟨after.value, after.state, flushed.effects ++ after.effects⟩ := by
  rw [run_flush]
  exact (settlesFirst_step first).run_eq r

/-- A synthetic event only settles, but for a complaint. -/
theorem run_pointer_synthetic {e : PointerEvent K} (synthetic : e.activation = .synthetic)
    (r : Relay K) :
    let flushed := (step .flushGestures).run r
    let complaint := if flushed.state.losesDoubleClick e then [.warning .lostDoubleClick] else []
    (step (.pointer e)).run r = ⟨.done, flushed.state, flushed.effects ++ complaint⟩ := by
  have hdropped : e.primary? = none := by
    simp [PointerEvent.primary?, synthetic]
  simp [step, pointer, hdropped]

/-- As long as no scroll gesture is open, such a call leaves the slot as it is, or opens a gesture
and answers its token. -/
theorem scroll_step (first : c.settlesFirst = true) (vacant : r.arbiter.scroll.session = none) :
    let next := (step c).run r
    next.state.arbiter.scroll = r.arbiter.scroll ∨
      ∃ t, next.value = .token (some t) ∧ next.state.arbiter.state .scroll = .active t := by
  cases c with
  | pointer e =>
      simp only [step, Action.run_bind, Action.run_pure]
      exact .inl (scroll_pointer e vacant)
  | pointerLeft =>
      simp only [step, Action.run_bind, Action.run_pure]
      exact .inl (scroll_pointerLeft vacant)
  | scroll input =>
      simp only [step, Action.run_bind, Action.run_pure]
      exact .inl (scroll_scroll input vacant)
  | beginScrollGesture p =>
      simp only [step, Action.run_bind, Action.run_pure, run_beginScroll_vacant p vacant]
      cases hattached : r.arbiter.dispatcher.attached with
      | false =>
          rw [Arbiter.run_openScroll_detached p vacant hattached]
          exact .inl rfl
      | true =>
          rw [Arbiter.run_openScroll_attached p vacant hattached]
          exact .inr ⟨r.arbiter.token, rfl, rfl⟩
  | scrollGestureMotion precise d t =>
      simp [step, run_scrollMotion_vacant precise d t vacant]
  | flushGestures =>
      simp [step, run_settle_vacant vacant]
  | _ =>
      cases first

/-! ## The main statement -/

theorem known_live (handle : WindowHandle) (attributes : Attributes K) (listener : Listener K)
    (turns : List (Turn K)) :
    Arbiter.Known 0 (Effect.callbacks (live handle attributes listener turns).effects)
      (live handle attributes listener turns).state.arbiter :=
  (Arbiter.Known.initial (Dispatcher.attach handle.id listener)).course
    (play_live handle attributes listener turns).course

/-- What becomes of a lifted gesture in a call that settles it, given in two parts: the settling,
and the rest of the call. -/
theorem lifted_of_known {log : List (Callback K)} {s : ScrollSession}
    (known : Arbiter.Known 0 log r.arbiter) (first : c.settlesFirst = true)
    (hs : r.arbiter.scroll.session = some s) (lifted : s.stage = .lifted) :
    let flushed := (step .flushGestures).run r
    let after := (step c).run flushed.state
    let n := s.capability.session
    flushed.effects =
        [.callback (.scroll n .finish), .callback (.scroll n (.ended .release))] ∧
      scrollBeats n (Effect.callbacks after.effects) = [] ∧
      flushed.state.arbiter.state .scroll = .released s.token ∧
      (after.state.arbiter.state .scroll = .released s.token ∨
        ∃ t, t ≠ s.token ∧ after.value = .token (some t) ∧
          after.state.arbiter.state .scroll = .active t) := by
  intro flushed after n
  let finish := (Arbiter.finishScroll .release).run r.arbiter
  have hstage : r.arbiter.stage? = some .lifted := by
    simp [Arbiter.stage?, hs, lifted]
  have hflushed : flushed = ⟨.done, { r with arbiter := finish.state }, finish.effects⟩ := by
    simp [flushed, run_flush, arbitrate, Arbiter.run_settleLifted_lifted hstage, finish]
  have hfinish : finish = _ := Arbiter.run_finishScroll_release hs
  have hslot : flushed.state.arbiter.scroll = Slot.ended .release s.token := by
    rw [hflushed, hfinish]
  have hcourse : Arbiter.Course finish.state after.effects after.state.arbiter := by
    have harbiter : flushed.state.arbiter = finish.state := by
      rw [hflushed]
    rw [← harbiter]
    exact (plays_step c flushed.state).course
  rcases known.settled hs hcourse with ⟨hsilent, howner⟩
  refine ⟨by rw [hflushed, hfinish], hsilent, congrArg Slot.state hslot, ?_⟩
  rcases scroll_step first (congrArg Slot.session hslot) with hkept | ⟨t, hvalue, hactive⟩
  · left
    exact congrArg Slot.state (hkept.trans hslot)
  · right
    -- The new gesture owns the scrolling, which the settled one never does again.
    have hfinished := known.course (Arbiter.plays_finishScroll .release r.arbiter).course
    have hafter := hfinished.course hcourse
    have htransient := ((hafter.told .scroll).active_iff.trans hafter.owner_iff.symm).1 hactive
    refine ⟨t, ?_, hvalue, hactive⟩
    rintro rfl
    exact howner htransient

/-- In every state of a window, a call that settles first comes to the same as a flush and then the
call: it has the same answer, leaves the same state, and has the effects of the one before those of
the other.  So if a scroll gesture is lifted, its session hears that no motion follows and of its
release before anything else happens, and nothing after that.  The gesture is released, and stays
the last of its kind unless the call answers the token of a new one.  A synthetic pointer event comes
to the flush alone. -/
theorem lifted_gesture_is_settled_first (handle : WindowHandle) (attributes : Attributes K)
    (listener : Listener K) (turns : List (Turn K)) :
    let r := (live handle attributes listener turns).state
    let flushed := (step .flushGestures).run r
    (∀ c, c.settlesFirst = true →
      let next := (step c).run r
      let after := (step c).run flushed.state
      next = ⟨after.value, after.state, flushed.effects ++ after.effects⟩ ∧
        ∀ s, r.arbiter.scroll.session = some s → s.stage = .lifted →
          let n := s.capability.session
          flushed.effects =
              [.callback (.scroll n .finish), .callback (.scroll n (.ended .release))] ∧
            scrollBeats n (Effect.callbacks after.effects) = [] ∧
            flushed.state.arbiter.state .scroll = .released s.token ∧
            (next.state.arbiter.state .scroll = .released s.token ∨
              ∃ t, t ≠ s.token ∧ next.value = .token (some t) ∧
                next.state.arbiter.state .scroll = .active t)) ∧
      ∀ e, e.activation = .synthetic →
        let next := (step (.pointer e)).run r
        next.value = .done ∧ next.state = flushed.state ∧
          Effect.callbacks next.effects = Effect.callbacks flushed.effects := by
  intro r flushed
  have hknown := known_live handle attributes listener turns
  refine ⟨fun c hfirst => ?_, fun e hsynthetic => ?_⟩
  · have hnext : (step c).run r = _ := run_step_flushed hfirst r
    refine ⟨hnext, fun s hs hlifted => ?_⟩
    rw [hnext]
    exact lifted_of_known hknown hfirst hs hlifted
  · rw [run_pointer_synthetic hsynthetic]
    refine ⟨rfl, rfl, ?_⟩
    rw [Effect.callbacks_append]
    split
    · exact List.append_nil _
    · exact List.append_nil _

end Calls

/-- A gesture that begins while another one is lifted has a token of its own. -/
theorem lifted_gesture_makes_way :
    let r : Relay Rat := (live (.detached ⟨1⟩) Attributes.standard Listener.deaf
      [.call (.beginScrollGesture Point.zero), .call .liftScrollGesture]).state
    let next := (step (.beginScrollGesture Point.zero)).run r
    let flushed := (step .flushGestures).run r
    r.arbiter.scroll.session = some ⟨⟨1⟩, ⟨⟨1⟩, 0⟩, .lifted, none⟩ ∧
      flushed.effects = [.callback (.scroll 0 .finish), .callback (.scroll 0 (.ended .release))] ∧
      flushed.state.arbiter.state .scroll = .released ⟨1⟩ ∧
      next.effects = flushed.effects ++ [.callback (.beginScroll 1 Point.zero)] ∧
      next.state.arbiter.state .scroll = .active ⟨2⟩ := by
  intro r next flushed
  have hlifted : r.arbiter.scroll.session = some ⟨⟨1⟩, ⟨⟨1⟩, 0⟩, .lifted, none⟩ := by
    decide +kernel
  have hsettled := lifted_gesture_is_settled_first (.detached ⟨1⟩) (Attributes.standard (K := Rat))
    Listener.deaf [.call (.beginScrollGesture Point.zero), .call .liftScrollGesture]
  rcases (hsettled.1 (.beginScrollGesture Point.zero) rfl).2 _ hlifted rfl with
    ⟨heffects, -, hreleased, -⟩
  exact ⟨hlifted, heffects, hreleased, by decide +kernel, by decide +kernel⟩

end Relay
end WindowRelay

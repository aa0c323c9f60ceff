import WindowRelay.Proofs.AppKit.Lifted
import WindowRelay.Proofs.Relay.PlainScrolling

/-!
# Deliveries — how often the delta of a wheel event is told

An event of the wheel has one delta and two phases, one of the fingers and one of the momentum.
In a scroll gesture each of the two hands the delta on by itself.  A toolkit sets one of them at a
time, and then the delta is told once at most; an event with both may tell it twice.

- `Effect.deltas`: the deltas that are told, inside gestures and outside of them.
- `Act.Steers`: what an operation makes of the stage of a scroll gesture, and what it tells.
- `AppKit.Window.tellings`: how often a wheel event tells its delta, by the stages it goes through.
- `AppKit.Window.TellsTwice`: the events that tell it twice.
- `AppKit.Window.wheel_event_is_told_by_its_phases`, `AppKit.Window.delta_is_told_twice`.
-/

namespace WindowRelay

/-! ## Deltas that are told -/

/-- The delta of a callback that moves the contents by one. -/
def Callback.delta? {K : Type} : Callback K → Option (Delta K)
  | .scrollContinuous _ d _ | .scroll _ (.motion _ d _) => some d
  | _ => none

namespace Effect

variable {K : Type}

def deltas (es : List (Effect K)) : List (Delta K) :=
  (callbacks es).filterMap Callback.delta?

@[simp]
theorem deltas_nil : deltas ([] : List (Effect K)) = [] :=
  rfl

@[simp]
theorem deltas_append (es fs : List (Effect K)) : deltas (es ++ fs) = deltas es ++ deltas fs := by
  simp [deltas]

end Effect

/-! ## Stages -/

namespace ScrollStage

/-- A gesture that goes on is not begun again, and one that is lifted makes way for the new one. -/
def afterBegin (line : Bool) : Option ScrollStage → Option ScrollStage
  | some .tracking => some .tracking
  | some .momentum => some .momentum
  | _ => if line then some .tracking else none

/-- Motion settles a lifted gesture. -/
def afterMotion : Option ScrollStage → Option ScrollStage
  | some .lifted => none
  | stage => stage

def afterLifting : Option ScrollStage → Option ScrollStage
  | some .tracking => some .lifted
  | stage => stage

def afterMomentum : Option ScrollStage → Option ScrollStage
  | some .lifted => some .momentum
  | stage => stage

theorem afterMotion_of_ne {stage : Option ScrollStage} (h : stage ≠ some .lifted) :
    afterMotion stage = stage := by
  unfold afterMotion
  split
  · exact absurd rfl h
  · rfl

theorem afterLifting_of_ne {stage : Option ScrollStage} (h : stage ≠ some .tracking) :
    afterLifting stage = stage := by
  unfold afterLifting
  split
  · exact absurd rfl h
  · rfl

theorem afterMomentum_of_ne {stage : Option ScrollStage} (h : stage ≠ some .lifted) :
    afterMomentum stage = stage := by
  unfold afterMomentum
  split
  · exact absurd rfl h
  · rfl

theorem isSome_afterMotion {stage : Option ScrollStage} :
    (afterMotion stage).isSome = true ↔ stage = some .tracking ∨ stage = some .momentum := by
  rcases stage with _ | _ | _ | _ <;> simp [afterMotion]

theorem afterBegin_tracking {line : Bool} {stage : Option ScrollStage} :
    afterBegin line stage = some .tracking ↔
      stage = some .tracking ∨ line = true ∧ stage ≠ some .momentum := by
  rcases stage with _ | _ | _ | _ <;> cases line <;> simp [afterBegin]

theorem afterBegin_momentum {line : Bool} {stage : Option ScrollStage} :
    afterBegin line stage = some .momentum ↔ stage = some .momentum := by
  rcases stage with _ | _ | _ | _ <;> cases line <;> simp [afterBegin]

end ScrollStage

namespace Act

variable {K σ α β : Type} {line : Bool} {view : σ → Arbiter K}
  {next next' : Option ScrollStage → Option ScrollStage}
  {told told' : Option ScrollStage → List (Delta K)}

/-- While the line is as given, `m` leaves it so, moves the scroll gesture on to the stage `next`
and tells of the deltas `told`, both by the stage that it finds. -/
def Steers (line : Bool) (view : σ → Arbiter K) (m : Act K σ α)
    (next : Option ScrollStage → Option ScrollStage) (told : Option ScrollStage → List (Delta K)) :
    Prop :=
  ∀ s, (view s).dispatcher.attached = line →
    (view (m.run s).state).dispatcher.attached = line ∧
      (view (m.run s).state).stage? = next (view s).stage? ∧
      Effect.deltas (m.run s).effects = told (view s).stage?

namespace Steers

theorem pure (x : α) : Steers line view (pure x : Act K σ α) id fun _ => [] :=
  fun _ hline => ⟨hline, rfl, rfl⟩

theorem bind {m : Act K σ α} {f : α → Act K σ β} (hm : Steers line view m next told)
    (hf : ∀ x, Steers line view (f x) next' told') :
    Steers line view (m >>= f) (next' ∘ next) fun stage => told stage ++ told' (next stage) := by
  intro s hline
  rcases hm s hline with ⟨hline', hnext, htold⟩
  rcases hf (m.run s).value (m.run s).state hline' with ⟨hline'', hnext', htold'⟩
  refine ⟨hline'', ?_, ?_⟩
  · rw [Action.run_bind, hnext', hnext, Function.comp_apply]
  · rw [Action.run_bind, Effect.deltas_append, htold, htold', hnext]

theorem congr {m : Act K σ α} (h : Steers line view m next told) (hnext : next = next')
    (htold : told = told') : Steers line view m next' told' := by
  subst hnext htold
  exact h

end Steers

end Act

/-! ## Scroll gestures -/

namespace Arbiter

open Act ScrollStage

variable {K : Type} {line : Bool} {a : Arbiter K}

theorem stage_none (h : a.scroll.session = none) : a.stage? = none := by
  simp [stage?, h]

theorem stage_some {s : ScrollSession} (h : a.scroll.session = some s) :
    a.stage? = some s.stage := by
  simp [stage?, h]

theorem steers_finishScroll (how : Ending) :
    Steers line id (finishScroll how : Act K (Arbiter K) Bool) (fun _ => none) fun _ => [] := by
  intro a hline
  cases hscroll : a.scroll.session with
  | none =>
      rw [run_finishScroll_none how hscroll]
      exact ⟨hline, stage_none hscroll, rfl⟩
  | some s =>
      cases how with
      | release =>
          rw [run_finishScroll_release hscroll]
          exact ⟨hline, rfl, rfl⟩
      | cancel =>
          rw [run_finishScroll_cancel hscroll]
          exact ⟨hline, rfl, rfl⟩

theorem steers_settleLifted :
    Steers line id (settleLifted : Act K (Arbiter K) Unit) afterMotion fun _ => [] := by
  intro a hline
  by_cases hlifted : a.stage? = some .lifted
  · rw [run_settleLifted_lifted hlifted]
    rcases steers_finishScroll .release a hline with ⟨hline', hnone, htold⟩
    refine ⟨hline', hnone.trans ?_, htold⟩
    rw [id, hlifted]
    rfl
  · rw [run_settleLifted_other hlifted]
    exact ⟨hline, (afterMotion_of_ne hlifted).symm, rfl⟩

theorem steers_openScroll (p : Point K) :
    Steers line id (openScroll p)
      (fun stage => if stage.isSome then stage else if line then some .tracking else none)
      fun _ => [] := by
  intro a hline
  cases hscroll : a.scroll.session with
  | some s =>
      rw [run_openScroll_busy p hscroll]
      exact ⟨hline, by simp [stage_some hscroll], rfl⟩
  | none =>
      cases hattached : a.dispatcher.attached with
      | false =>
          have hcut : line = false := hline.symm.trans hattached
          subst hcut
          rw [run_openScroll_detached p hscroll hattached]
          exact ⟨hattached, by simp [stage_none hscroll], rfl⟩
      | true =>
          have hthere : line = true := hline.symm.trans hattached
          subst hthere
          rw [run_openScroll_attached p hscroll hattached]
          refine ⟨hattached, ?_, rfl⟩
          rw [id, id, stage_none hscroll]
          rfl

theorem steers_beginScroll (p : Point K) :
    Steers line id (beginScroll p) (afterBegin line) fun _ => [] := by
  have hopen : Steers line id (openScroll p) _ fun _ => [] := steers_openScroll p
  refine (steers_settleLifted.bind fun _ => hopen).congr (funext fun stage => ?_) rfl
  rcases stage with _ | _ | _ | _ <;> rfl

theorem steers_moveScroll [Scalar K] (precise : Bool) (d : Delta K) (t : Time) :
    Steers line id (moveScroll precise d t) id fun stage => if stage.isSome then [d] else [] := by
  intro a hline
  cases hscroll : a.scroll.session with
  | none =>
      rw [run_moveScroll_none precise d t hscroll]
      refine ⟨hline, rfl, ?_⟩
      rw [id, stage_none hscroll]
      rfl
  | some s =>
      rw [run_moveScroll_some precise d t hscroll]
      refine ⟨hline, ?_, ?_⟩
      · rw [id, id, id, stage_some hscroll]
        rfl
      · rw [id, stage_some hscroll]
        rfl

theorem steers_scrollMotion [Scalar K] (precise : Bool) (d : Delta K) (t : Time) :
    Steers line id (scrollMotion precise d t) afterMotion
      fun stage => if (afterMotion stage).isSome then [d] else [] :=
  steers_settleLifted.bind fun _ => steers_moveScroll precise d t

theorem steers_liftScroll :
    Steers line id (liftScroll : Act K (Arbiter K) Bool) afterLifting fun _ => [] := by
  intro a hline
  by_cases htracking : a.stage? = some .tracking
  · rcases Option.map_eq_some_iff.1 htracking with ⟨s, hs, hstage⟩
    rw [run_liftScroll_tracking hs hstage]
    refine ⟨hline, ?_, rfl⟩
    rw [id, id, htracking]
    rfl
  · rw [run_liftScroll_other htracking]
    exact ⟨hline, (afterLifting_of_ne htracking).symm, rfl⟩

theorem steers_startMomentum :
    Steers line id (startMomentum : Act K (Arbiter K) Bool) afterMomentum fun _ => [] := by
  intro a hline
  by_cases hlifted : a.stage? = some .lifted
  · rcases Option.map_eq_some_iff.1 hlifted with ⟨s, hs, hstage⟩
    rw [run_startMomentum_lifted hs hstage]
    refine ⟨hline, ?_, rfl⟩
    rw [id, id, hlifted]
    rfl
  · rw [run_startMomentum_other hlifted]
    exact ⟨hline, (afterMomentum_of_ne hlifted).symm, rfl⟩

end Arbiter

/-! ## Plain scrolling -/

namespace Relay

variable {K : Type} [Scalar K]

theorem deltas_delta (p : Point K) (d : Delta K) (t : Time) (r : Relay K) :
    Effect.deltas ((scroll (.delta p d t)).run r).effects =
      if r.arbiter.dispatcher.attached then [d] else [] := by
  have hsettle := (Arbiter.steers_settleLifted r.arbiter rfl).2.2
  rw [run_delta, Effect.deltas_append, hsettle, List.nil_append]
  cases r.arbiter.dispatcher.attached <;> rfl

theorem deltas_stop (p : Point K) (t : Time) (r : Relay K) :
    Effect.deltas ((scroll (.stop p t)).run r).effects = [] := by
  have hsettle := (Arbiter.steers_settleLifted r.arbiter rfl).2.2
  rw [run_stop, Effect.deltas_append, hsettle, List.nil_append]
  split <;> rfl

end Relay

/-! ## Wheel events -/

namespace AppKit
namespace Window

open Act ScrollStage

variable {K : Type} {line : Bool}

theorem steers_doWhen {α : Type} {next : Option ScrollStage → Option ScrollStage}
    {told : Option ScrollStage → List (Delta K)} {m : Act K (Arbiter K) α} (condition : Bool)
    (h : Steers line id m next told) :
    Steers line arbiter (doWhen condition m) (if condition then next else id)
      fun stage => if condition then told stage else [] := by
  cases condition with
  | false => exact Steers.pure ()
  | true =>
      intro w hline
      simpa [doWhen, relaying, Relay.arbitrate, arbiter] using h w.arbiter hline

section Wheel

variable [Scalar K] {w : Window K} {e : Event K}

/-- The stage in which the motion of the fingers finds the scroll gesture. -/
def stageOfFingers (w : Window K) (e : Event K) : Option ScrollStage :=
  (if e.phase.has .began then afterBegin w.arbiter.dispatcher.attached else id) w.arbiter.stage?

def movesFingers (w : Window K) (e : Event K) : Bool :=
  (e.phase.has .began || e.phase.has .changed) && !(w.scrollDelta e).isZero

/-- The stage in which the motion of the momentum finds the scroll gesture, after the fingers have
moved, lifted or given up and the momentum has begun. -/
def stageOfMomentum (w : Window K) (e : Event K) : Option ScrollStage :=
  let moved := (if w.movesFingers e then afterMotion else id) (w.stageOfFingers e)
  let lifted := (if e.phase.has .ended then afterLifting else id) moved
  let left := (if e.phase.has .cancelled then fun _ => none else id) lifted
  (if e.momentum.has .began then afterMomentum else id) left

def movesMomentum (w : Window K) (e : Event K) : Bool :=
  (e.momentum.has .began || e.momentum.has .changed) && !(w.scrollDelta e).isZero

/-- How often a phased event tells its delta to the scroll gesture. -/
def gestureTellings (w : Window K) (e : Event K) : Nat :=
  (w.movesFingers e && (afterMotion (w.stageOfFingers e)).isSome).toNat +
    (w.movesMomentum e && (afterMotion (w.stageOfMomentum e)).isSome).toNat

theorem deltas_scrollGesture (e : Event K) (w : Window K) :
    Effect.deltas ((scrollGesture e).run w).effects =
      List.replicate (w.gestureTellings e) (w.scrollDelta e) := by
  have hmotion (condition : Bool) : Steers w.arbiter.dispatcher.attached arbiter _ _ _ :=
    steers_doWhen condition
      (Arbiter.steers_scrollMotion e.hasPreciseDeltas (w.scrollDelta e) e.time)
  have hmomentum := (steers_doWhen (e.momentum.has .began) Arbiter.steers_startMomentum).bind
    fun _ => (hmotion (w.movesMomentum e)).bind fun _ =>
      steers_doWhen (e.momentum.has .ended || e.momentum.has .cancelled)
        (Arbiter.steers_finishScroll .release)
  have hgesture := (steers_doWhen (e.phase.has .began)
      (Arbiter.steers_beginScroll (w.toContent e.location))).bind fun _ =>
    (hmotion (w.movesFingers e)).bind fun _ =>
      (steers_doWhen (e.phase.has .ended) Arbiter.steers_liftScroll).bind fun _ =>
        (steers_doWhen (e.phase.has .cancelled) (Arbiter.steers_finishScroll .cancel)).bind fun _ =>
          hmomentum
  -- Only the two motions tell anything, each of them once if it finds a gesture.
  have hsilent (c : Bool) : (if c then ([] : List (Delta K)) else []) = [] := ite_self _
  have honce (c found : Bool) (d : Delta K) :
      (if c then if found then [d] else [] else []) = List.replicate (c && found).toNat d := by
    cases c <;> cases found <;> rfl
  rw [run_scrollGesture]
  refine (hgesture w rfl).2.2.trans ?_
  simp only [hsilent, honce, List.nil_append, List.append_nil]
  exact List.replicate_append_replicate

/-- Whether an event outside of a gesture tells its delta to the listener. -/
def flows (w : Window K) (e : Event K) : Bool :=
  w.arbiter.dispatcher.attached && e.momentum.isEmpty && !(e.phase.has .ended) &&
    !(e.phase.has .cancelled) && !(w.scrollDelta e).isZero

theorem deltas_scrollFlat (e : Event K) (w : Window K) :
    Effect.deltas ((scrollFlat e).run w).effects =
      List.replicate (w.flows e).toNat (w.scrollDelta e) := by
  rw [run_scrollFlat, flows]
  cases e.momentum.isEmpty with
  | false => simp
  | true =>
      cases e.phase.has .ended <;> cases e.phase.has .cancelled <;>
        cases (w.scrollDelta e).isZero <;> cases hline : w.relay.arbiter.dispatcher.attached <;>
        simp [relaying, Relay.deltas_stop, Relay.deltas_delta, arbiter, hline]

/-- How often a wheel event tells its delta. -/
def tellings (w : Window K) (e : Event K) : Nat :=
  if e.isPhased && w.relay.attributes.scrollGestures then w.gestureTellings e
  else (w.flows e).toNat

/-! ### Events that tell twice -/

/-- An event whose motion the scroll gesture is told by the fingers and again by the momentum. -/
structure TellsTwice (w : Window K) (e : Event K) : Prop where
  gestures : w.relay.attributes.scrollGestures = true
  moves : (w.scrollDelta e).isZero = false
  fingers : e.phase.has .began = true ∨ e.phase.has .changed = true
  momentum : e.momentum.has .began = true ∨ e.momentum.has .changed = true
  /-- The fingers find a gesture that hears of motion, or begin one. -/
  found : (e.phase.has .began = true ∧ w.arbiter.dispatcher.attached = true) ∨
    w.arbiter.stage? = some .tracking ∨ w.arbiter.stage? = some .momentum
  /-- The event does not end what the fingers found. -/
  kept : e.phase.has .cancelled = false
  goesOn : w.arbiter.stage? = some .momentum ∨ e.phase.has .ended = false ∨
    e.momentum.has .began = true

theorem movesFingers_iff :
    w.movesFingers e = true ↔
      (w.scrollDelta e).isZero = false ∧
        (e.phase.has .began = true ∨ e.phase.has .changed = true) := by
  simp [movesFingers, and_comm]

theorem movesMomentum_iff :
    w.movesMomentum e = true ↔
      (w.scrollDelta e).isZero = false ∧
        (e.momentum.has .began = true ∨ e.momentum.has .changed = true) := by
  simp [movesMomentum, and_comm]

omit [Scalar K] in
theorem found_iff :
    (afterMotion (w.stageOfFingers e)).isSome = true ↔
      (e.phase.has .began = true ∧ w.arbiter.dispatcher.attached = true) ∨
        w.arbiter.stage? = some .tracking ∨ w.arbiter.stage? = some .momentum := by
  rw [isSome_afterMotion, stageOfFingers]
  cases e.phase.has .began with
  | false => simp
  | true =>
      simp only [if_true, afterBegin_tracking, afterBegin_momentum, true_and]
      constructor
      · rintro ((h | ⟨h, -⟩) | h)
        · exact .inr (.inl h)
        · exact .inl h
        · exact .inr (.inr h)
      · rintro (h | h | h)
        · by_cases hmomentum : w.arbiter.stage? = some .momentum
          · exact .inr hmomentum
          · exact .inl (.inr ⟨h, hmomentum⟩)
        · exact .inl (.inl h)
        · exact .inr h

/-- Of the gesture that the fingers have found, the momentum finds what they did not end. -/
theorem goesOn_iff (moved : w.movesFingers e = true)
    (found : (afterMotion (w.stageOfFingers e)).isSome = true) :
    (afterMotion (w.stageOfMomentum e)).isSome = true ↔
      e.phase.has .cancelled = false ∧
        (w.arbiter.stage? = some .momentum ∨ e.phase.has .ended = false ∨
          e.momentum.has .began = true) := by
  have hmomentum : w.stageOfFingers e = some .momentum ↔ w.arbiter.stage? = some .momentum := by
    unfold stageOfFingers
    cases e.phase.has .began with
    | false => exact Iff.rfl
    | true => exact afterBegin_momentum
  rw [← hmomentum, stageOfMomentum]
  rcases isSome_afterMotion.1 found with hstage | hstage <;>
    cases e.phase.has .cancelled <;> cases e.phase.has .ended <;> cases e.momentum.has .began <;>
    simp [moved, hstage, afterMotion, afterLifting, afterMomentum]

omit [Scalar K] in
theorem phase_isEmpty (unphased : e.isPhased = false) : e.phase.isEmpty = true := by
  have hunion : (e.phase.union e.momentum).isEmpty = true := by
    simpa [Event.isPhased] using unphased
  have hbits : e.phase.bits ||| e.momentum.bits = 0 := by
    simpa [Mask.isEmpty, Mask.union] using hunion
  simp [Mask.isEmpty, (BitVec.or_eq_zero_iff.1 hbits).1]

theorem gestureTellings_eq_two_iff :
    w.gestureTellings e = 2 ↔
      (w.movesFingers e = true ∧ (afterMotion (w.stageOfFingers e)).isSome = true) ∧
        w.movesMomentum e = true ∧ (afterMotion (w.stageOfMomentum e)).isSome = true := by
  rw [← Bool.and_eq_true_iff, ← Bool.and_eq_true_iff, gestureTellings]
  cases w.movesFingers e && (afterMotion (w.stageOfFingers e)).isSome <;>
    cases w.movesMomentum e && (afterMotion (w.stageOfMomentum e)).isSome <;> simp

theorem tellsTwice_iff (gestures : w.relay.attributes.scrollGestures = true) :
    w.TellsTwice e ↔ w.gestureTellings e = 2 := by
  rw [gestureTellings_eq_two_iff]
  constructor
  · intro h
    have hmoved := movesFingers_iff.2 ⟨h.moves, h.fingers⟩
    have hfound := found_iff.2 h.found
    exact ⟨⟨hmoved, hfound⟩, movesMomentum_iff.2 ⟨h.moves, h.momentum⟩,
      (goesOn_iff hmoved hfound).2 ⟨h.kept, h.goesOn⟩⟩
  · rintro ⟨⟨hmoved, hfound⟩, hagain, hgoesOn⟩
    rcases movesFingers_iff.1 hmoved with ⟨hmoves, hfingers⟩
    rcases (goesOn_iff hmoved hfound).1 hgoesOn with ⟨hkept, hon⟩
    exact ⟨gestures, hmoves, hfingers, (movesMomentum_iff.1 hagain).2, found_iff.1 hfound, hkept,
      hon⟩

theorem tellings_le_two (w : Window K) (e : Event K) : w.tellings e ≤ 2 := by
  unfold tellings gestureTellings
  split
  · exact Nat.add_le_add (Bool.toNat_le _) (Bool.toNat_le _)
  · exact (Bool.toNat_le _).trans (Nat.le_succ 1)

theorem tellings_eq_two_iff : w.tellings e = 2 ↔ w.TellsTwice e := by
  unfold tellings
  split
  · rename_i hphased
    exact (tellsTwice_iff (Bool.and_eq_true_iff.1 hphased).2).symm
  · rename_i hplain
    constructor
    · intro htwo
      have hone := Bool.toNat_le (w.flows e)
      omega
    · -- An event that says something of the fingers is phased.
      intro h
      have hphased : e.isPhased = true := by
        cases hunphased : e.isPhased with
        | true => rfl
        | false =>
            have hstill := has_of_isEmpty (phase_isEmpty hunphased)
            simpa [hstill] using h.fingers
      exact absurd (Bool.and_eq_true_iff.2 ⟨hphased, h.gestures⟩) hplain

/-- A wheel event tells its delta, scaled, once for each of its phases at most.  Both tell it if and
only if the event moves the fingers on a gesture and the momentum on the same one. -/
theorem wheel_event_is_told_by_its_phases (w : Window K) (e : Event K)
    (wheel : e.type = .scrollWheel) :
    let told := Effect.deltas ((handle e).run w).effects
    let d := e.delta.scale
      (if e.hasPreciseDeltas then Scalar.one else w.relay.attributes.lineHeight)
    told = List.replicate (w.tellings e) d ∧ w.tellings e ≤ 2 ∧
      (w.tellings e = 2 ↔ w.TellsTwice e) ∧
      (e.phase.isEmpty = true ∨ e.momentum.isEmpty = true ∨
        w.relay.attributes.scrollGestures = false → told.length ≤ 1) := by
  intro told d
  have htold : told = List.replicate (w.tellings e) d := by
    simp only [told, handle, wheel, run_scrollWheel, tellings]
    split
    · exact deltas_scrollGesture e w
    · exact deltas_scrollFlat e w
  have htwo := tellings_eq_two_iff (w := w) (e := e)
  refine ⟨htold, tellings_le_two w e, htwo, fun hone => ?_⟩
  have hnot : w.tellings e ≠ 2 := by
    intro h
    have htwice := htwo.1 h
    rcases hone with hstill | hstill | hflat
    · simpa [has_of_isEmpty hstill] using htwice.fingers
    · simpa [has_of_isEmpty hstill] using htwice.momentum
    · exact absurd htwice.gestures (by simp [hflat])
  have hle := tellings_le_two w e
  rw [htold, List.length_replicate]
  omega

end Wheel

/-! ## One event, one delta or two -/

/-- A window to which nothing has happened. -/
def untouched : Window Rat :=
  (live (.detached ⟨1⟩) Attributes.standard Listener.deaf ⟨100, 100⟩ []).state

/-- Three lines, as the fingers begin to move. -/
def threeLines : Event Rat :=
  { Event.scrollWheel ⟨10, 20⟩ ⟨0, 3⟩ with phase := Mask.single .began }

theorem wheel_event_is_told_by_its_phases_as_it_begins :
    threeLines.type = .scrollWheel ∧ threeLines.momentum.isEmpty = true ∧
      Effect.deltas ((handle threeLines).run untouched).effects = [⟨0, 120⟩] ∧
      ¬ untouched.TellsTwice threeLines := by
  rcases wheel_event_is_told_by_its_phases untouched threeLines rfl with ⟨htold, -, htwice, -⟩
  have hone : untouched.tellings threeLines = 1 := by
    decide +kernel
  have hdelta : threeLines.delta.scale untouched.relay.attributes.lineHeight = ⟨0, 120⟩ := by
    decide +kernel
  refine ⟨rfl, rfl, ?_, fun h => ?_⟩
  · rw [htold, hone]
    exact congrArg (List.replicate 1) hdelta
  · exact absurd (htwice.2 h) (by rw [hone]; decide)

/-- Three points, as fingers and momentum begin at once. -/
def twoBeginnings : Event Rat :=
  { Event.scrollWheel ⟨10, 20⟩ ⟨0, 3⟩ with
    hasPreciseDeltas := true
    phase := Mask.single .began
    momentum := Mask.single .began }

/-- The session that the event opens hears of its delta twice. -/
theorem delta_is_told_twice :
    Effect.deltas ((handle twoBeginnings).run untouched).effects = [⟨0, 3⟩, ⟨0, 3⟩] := by
  decide +kernel

end Window
end AppKit
end WindowRelay

import Mathlib.Tactic.FieldSimp
import Mathlib.Tactic.Ring
import WindowRelay.Proofs.Exact
import WindowRelay.Proofs.Relay.DragButtons
import WindowRelay.Proofs.Relay.PlainScrolling
import WindowRelay.Proofs.Relay.Settling
import WindowRelay.Proofs.Win32.Words

/-!
# Travel — how far a wheel scrolls

A wheel message tells an amount, of which 120 are a notch.  Whole notches are told the listener one
step at a time, and any other amount as one delta.  With a step counted as the line that it stands
for, either way the contents move by the amount in notches times the line height.

- `Callback.travel`, `Effect.travel`: how far the contents are moved.
- `Win32.Delivers`: what is told of one amount.
- `Win32.Call.travel`: how far a message wants them moved.
- `wheel_travel_is_conserved`: a wheel message in any run, and all of them together.
- `wheel_travel_is_lost`: a message that is abandoned for the distance of its position.
-/

namespace WindowRelay

/-! ## Adding up -/

namespace Delta

theorem zero_add (d : Delta Rat) : Point.zero + d = d := by
  simp [Point.add_eq, Point.zero, Scalar.zero_rat]

theorem add_zero (d : Delta Rat) : d + Point.zero = d := by
  simp [Point.add_eq, Point.zero, Scalar.zero_rat]

theorem sum_append (ds es : List (Delta Rat)) : sum (ds ++ es) = sum ds + sum es := by
  induction ds with
  | nil =>
      exact (zero_add _).symm
  | cons d ds ih =>
      simp only [sum, List.cons_append, List.foldr_cons] at ih ⊢
      rw [ih]
      simp only [Point.add_eq, add_assoc]

theorem sum_replicate (n : Nat) (d : Delta Rat) : sum (List.replicate n d) = d.scale n := by
  induction n with
  | zero =>
      simp [sum, Point.scale_eq, Point.zero, Scalar.zero_rat]
  | succ n ih =>
      simp only [sum, List.replicate_succ, List.foldr_cons] at ih ⊢
      rw [ih]
      simp only [Point.scale_eq, Point.add_eq, Nat.cast_add, Nat.cast_one]
      congr 1 <;> ring

end Delta

/-- How far a callback moves the contents, where a step is a line. -/
def Callback.travel (lineHeight : Rat) : Callback Rat → Delta Rat
  | .scrollDiscrete _ d => d.scale lineHeight
  | .scrollContinuous _ d _ => d
  | _ => Point.zero

theorem Callback.travel_eq_zero {lineHeight : Rat} {c : Callback Rat} (h : c.isScroll = false) :
    c.travel lineHeight = Point.zero := by
  cases c with
  | scrollDiscrete p d => cases h
  | scrollContinuous p d t => cases h
  | _ => rfl

namespace Effect

def travel (lineHeight : Rat) (es : List (Effect Rat)) : Delta Rat :=
  Delta.sum ((callbacks es).map (Callback.travel lineHeight))

variable {lineHeight : Rat} {es fs : List (Effect Rat)}

theorem travel_append :
    travel lineHeight (es ++ fs) = travel lineHeight es + travel lineHeight fs := by
  rw [travel, callbacks_append, List.map_append, Delta.sum_append]
  rfl

theorem travel_callbacks (told : List (Callback Rat)) :
    travel lineHeight (told.map .callback) = Delta.sum (told.map (Callback.travel lineHeight)) := by
  have hcallbacks : callbacks (told.map .callback) = told := by
    simp [callbacks, List.filterMap_map, Function.comp_def, callback?]
  rw [travel, hcallbacks]

theorem travel_eq_zero (h : ∀ e ∈ es, e.isScroll = false) : travel lineHeight es = Point.zero := by
  induction es with
  | nil =>
      rfl
  | cons e es ih =>
      have hrest := ih fun e he => h e (List.mem_cons_of_mem _ he)
      have hfirst : travel lineHeight [e] = Point.zero := by
        cases e with
        | callback c =>
            have hc : c.travel lineHeight = Point.zero :=
              Callback.travel_eq_zero (h (.callback c) (List.mem_cons_self ..))
            simp [travel, callbacks, callback?, Delta.sum, hc, Delta.zero_add]
        | access a => rfl
        | warning w => rfl
      calc
        travel lineHeight ([e] ++ es)
            = travel lineHeight [e] + travel lineHeight es := travel_append
        _ = Point.zero := by rw [hfirst, hrest, Delta.zero_add]

end Effect

/-! ## Scrolling -/

namespace Relay

variable {K : Type} [Scalar K] {r : Relay K}

/-- With nothing to settle, what is scrolled is told, and only the tracker moves on. -/
theorem run_scroll {input : ScrollInput K} {tracker : PhaseTracker} {e : ScrollEvent K}
    {c : Callback K} (settled : r.arbiter.stage? ≠ some .lifted)
    (line : r.arbiter.dispatcher.attached = true)
    (track : r.tracker.track input = (tracker, some e))
    (tells : Dispatcher.scroll e = Dispatcher.notify c) :
    (scroll input).run r = ⟨(), { r with tracker := tracker }, [.callback c]⟩ := by
  simp only [scroll, trackScroll, arbitrate, dispatch, Action.run_bind, Action.run_within,
    Action.run_get, Action.run_set, Action.run_pure, Arbiter.run_settleLifted_other settled, track,
    tells, Arbiter.run_notify_attached c line, List.nil_append]

theorem run_scroll_steps (settled : r.arbiter.stage? ≠ some .lifted)
    (line : r.arbiter.dispatcher.attached = true) (p : Point K) (d : ScrollDirection) (t : Time)
    (n : Nat) :
    ∃ tracker, (Action.each scroll (List.replicate n (.step p d t))).run r =
      ⟨(), { r with tracker := tracker },
        List.replicate n (.callback (.scrollDiscrete p d.unitDelta))⟩ := by
  induction n generalizing r with
  | zero =>
      exact ⟨r.tracker, rfl⟩
  | succ n ih =>
      have htrack : ∃ tracker, r.tracker.track (.step p d t) =
          (tracker, some ⟨p, d.unitDelta, .discrete, r.tracker.clamp t⟩) := by
        rw [PhaseTracker.track, PhaseTracker.classify_step _ rfl rfl]
        exact ⟨_, rfl⟩
      rcases htrack with ⟨tracker, htrack⟩
      have hfirst := run_scroll (c := .scrollDiscrete p d.unitDelta) settled line htrack rfl
      -- The step leaves the arbiter as it was, so the rest finds nothing to settle either.
      rcases ih (r := { r with tracker := tracker }) settled line with ⟨last, hrest⟩
      refine ⟨last, ?_⟩
      simp only [List.replicate_succ, Action.each, Action.run_bind, hfirst, hrest]
      rfl

theorem run_scroll_delta (settled : r.arbiter.stage? ≠ some .lifted)
    (line : r.arbiter.dispatcher.attached = true) (p : Point K) (d : Delta K) (t : Time) :
    ∃ tracker time, (Action.each scroll [.delta p d t]).run r =
      ⟨(), { r with tracker := tracker }, [.callback (.scrollContinuous p d time)]⟩ := by
  refine ⟨⟨.continuous, some (max r.tracker.mark t)⟩, max r.tracker.mark t, ?_⟩
  simp only [Action.each, Action.run_bind, Action.run_pure, run_delta,
    Arbiter.run_settleLifted_other settled, line, if_true, List.nil_append, List.append_nil]

end Relay

namespace Win32

/-! ## Amounts -/

/-- Which of the two wheels a message is from. -/
def Message.wheel? (m : Message) : Option Bool :=
  match MessageKind.ofNumber? m.number with
  | some .mouseWheel => some true
  | some .mouseHWheel => some false
  | _ => none

namespace Call

variable {K : Type}

def wheel? : Call K → Option Bool
  | .message m => m.wheel?
  | _ => none

/-- A call of the toolkit, and not one of the relay itself. -/
def isNative : Call K → Bool
  | .relay _ => false
  | _ => true

end Call

/-- How far an amount moves the contents. -/
def wheelTravel (lineHeight : Rat) (vertical : Bool) (amount : Int) : Delta Rat :=
  let travel := amount / 120 * lineHeight
  if vertical then ⟨0, travel⟩ else ⟨-travel, 0⟩

/-- How far a message moves the contents, by its answer.  An abandoned one does not. -/
def Call.travel (lineHeight : Rat) : Call Rat → Except Fault (Reply Rat) → Delta Rat
  | .message m, .ok _ =>
      (m.wheel?.map fun vertical => wheelTravel lineHeight vertical (hiSigned m.wParam32)).getD
        Point.zero
  | _, _ => Point.zero

theorem Call.travel_of_not_wheel {c : Call Rat} (h : c.wheel? = none) (lineHeight : Rat)
    (answer : Except Fault (Reply Rat)) : c.travel lineHeight answer = Point.zero := by
  cases c with
  | message m =>
      cases answer with
      | error fault => rfl
      | ok reply =>
          have hm : m.wheel? = none := h
          simp [travel, hm]
  | _ => rfl

/-- What is told of an amount: steps alone for whole notches, and one delta otherwise. -/
structure Delivers (lineHeight : Rat) (vertical : Bool) (amount : Int) (p : Point Rat)
    (told : List (Callback Rat)) : Prop where
  whole : 120 ∣ amount → ∃ d, told = List.replicate (amount.natAbs / 120) (.scrollDiscrete p d)
  part : ¬ 120 ∣ amount → ∃ d t, told = [.scrollContinuous p d t]
  travel : Delta.sum (told.map (Callback.travel lineHeight)) =
    wheelTravel lineHeight vertical amount

/-- An amount has 16 bits, and so no more than 273 notches. -/
theorem Delivers.length_le {lineHeight : Rat} {vertical : Bool} {word : UInt32} {p : Point Rat}
    {told : List (Callback Rat)} (h : Delivers lineHeight vertical (hiSigned word) p told) :
    told.length ≤ 273 := by
  by_cases hwhole : 120 ∣ hiSigned word
  · rcases h.whole hwhole with ⟨d, rfl⟩
    have hbounds := hiSigned_bounds word
    rw [List.length_replicate]
    omega
  · rcases h.part hwhole with ⟨d, t, rfl⟩
    exact Nat.succ_le_succ (Nat.zero_le _)

/-- Whether the contents move forth or back along their axis. -/
def wheelSign (amount : Int) : Rat :=
  if 0 < amount then 1 else -1

theorem unitDelta_wheelDirection (vertical : Bool) (amount : Int) :
    ((Window.wheelDirection vertical amount).unitDelta : Delta Rat) =
      if vertical then ⟨0, wheelSign amount⟩ else ⟨-wheelSign amount, 0⟩ := by
  cases vertical <;> by_cases hpos : 0 < amount <;>
    simp [Window.wheelDirection, wheelSign, hpos, ScrollDirection.unitDelta, Scalar.ofInt_rat]

theorem notches_mul_wheelSign {amount : Int} (whole : 120 ∣ amount) :
    ((amount.natAbs / 120 : Nat) : Rat) * wheelSign amount = amount / 120 := by
  rcases whole with ⟨n, rfl⟩
  have hcount : (120 * n).natAbs / 120 = n.natAbs := by
    rw [Int.natAbs_mul]
    exact Nat.mul_div_cancel_left _ (by decide)
  have hnotches : ((120 * n : Int) : Rat) / 120 = n := by
    push_cast
    field_simp
  rw [hcount, hnotches, Nat.cast_natAbs, wheelSign]
  by_cases hpos : 0 < 120 * n
  · have habs : |n| = n := abs_of_pos (by omega)
    rw [if_pos hpos, habs, mul_one]
  · have habs : |n| = -n := abs_of_nonpos (by omega)
    rw [if_neg hpos, habs, Int.cast_neg, neg_mul_neg, mul_one]

/-- The steps of an amount move the contents as far as the amount says. -/
theorem scale_wheelDirection (lineHeight : Rat) (vertical : Bool) {amount : Int}
    (whole : 120 ∣ amount) :
    ((Window.wheelDirection vertical amount).unitDelta.scale lineHeight).scale
        (amount.natAbs / 120 : Nat) = wheelTravel lineHeight vertical amount := by
  have htravel := notches_mul_wheelSign whole
  rw [unitDelta_wheelDirection, wheelTravel, ← htravel]
  cases vertical <;> simp [Point.scale_eq, mul_comm, mul_left_comm]

namespace Window

variable {w : Window Rat} {r : Relay Rat}

/-- The inputs of an amount, on a relay with nothing to settle. -/
theorem run_wheelInputs (settled : r.arbiter.stage? ≠ some .lifted)
    (line : r.arbiter.dispatcher.attached = true) (vertical : Bool) (amount : Int) (p : Point Rat)
    (t : Time) :
    ∃ tracker told, (Action.each Relay.scroll (w.wheelInputs vertical amount p t)).run r =
        ⟨(), { r with tracker := tracker }, told.map Effect.callback⟩ ∧
      Delivers w.relay.attributes.lineHeight vertical amount p told := by
  have hnotch : wheelNotch = 120 := rfl
  by_cases hwhole : 120 ∣ amount
  · let d := wheelDirection vertical amount
    have hinputs : w.wheelInputs vertical amount p t =
        List.replicate (amount.natAbs / 120) (.step p d t) := by
      have hrest : amount.tmod wheelNotch = 0 := Int.tmod_eq_zero_of_dvd hwhole
      rw [wheelInputs, if_pos hrest, hnotch, Int.natAbs_tdiv]
      rfl
    rcases Relay.run_scroll_steps settled line p d t (amount.natAbs / 120) with ⟨tracker, hrun⟩
    refine ⟨tracker, List.replicate (amount.natAbs / 120) (.scrollDiscrete p d.unitDelta), ?_,
      fun _ => ⟨_, rfl⟩, fun hpart => absurd hwhole hpart, ?_⟩
    · rw [hinputs, hrun, List.map_replicate]
    · rw [List.map_replicate, Delta.sum_replicate]
      exact scale_wheelDirection _ vertical hwhole
  · let d := wheelTravel w.relay.attributes.lineHeight vertical amount
    have hinputs : w.wheelInputs vertical amount p t = [.delta p d t] := by
      have hrest : ¬ amount.tmod wheelNotch = 0 := by
        intro hzero
        exact hwhole (Int.dvd_of_tmod_eq_zero hzero)
      rw [wheelInputs, if_neg hrest]
      cases vertical <;> rfl
    rcases Relay.run_scroll_delta settled line p d t with ⟨tracker, time, hrun⟩
    refine ⟨tracker, [.scrollContinuous p d time], ?_, fun h => absurd h hwhole,
      fun _ => ⟨d, time, rfl⟩, ?_⟩
    · rw [hinputs, hrun]
      rfl
    · simp [Delta.sum, Callback.travel, Delta.add_zero, d]

end Window
end Win32

/-! ## Settling -/

namespace Arbiter

variable {K : Type}

/-- What is told when a lifted scroll gesture is settled; nothing, if there is none. -/
def Settling (a : Arbiter K) (told : List (Callback K)) : Prop :=
  told = [] ∨ ∃ s, a.scroll.session = some s ∧ s.stage = .lifted ∧
    told = [.scroll s.capability.session .finish, .scroll s.capability.session (.ended .release)]

theorem settling_settleLifted (a : Arbiter K) :
    ∃ told, (settleLifted.run a).effects = told.map Effect.callback ∧ a.Settling told := by
  by_cases hlifted : a.stage? = some .lifted
  · rcases Option.map_eq_some_iff.1 hlifted with ⟨s, hs, hstage⟩
    rw [run_settleLifted_lifted hlifted, run_finishScroll_release hs]
    exact ⟨_, rfl, .inr ⟨s, hs, hstage, rfl⟩⟩
  · rw [run_settleLifted_other hlifted]
    exact ⟨[], rfl, .inl rfl⟩

theorem Settling.unscrolled {a : Arbiter K} {told : List (Callback K)} (h : a.Settling told) :
    ∀ e ∈ told.map Effect.callback, e.isScroll = false := by
  rcases h with rfl | ⟨s, -, -, rfl⟩ <;> simp [Effect.isScroll, Callback.isScroll]

end Arbiter

namespace Win32
namespace Window

variable {w : Window Rat} {r : Relay Rat}

/-- The inputs of an amount.  The first of them settles a lifted gesture. -/
theorem run_wheelInputs_any (line : r.arbiter.dispatcher.attached = true) (vertical : Bool)
    (amount : Int) (p : Point Rat) (t : Time) :
    ∃ settled told r', (Action.each Relay.scroll (w.wheelInputs vertical amount p t)).run r =
        ⟨(), r', (settled ++ told).map Effect.callback⟩ ∧
      r.arbiter.Settling settled ∧
        Delivers w.relay.attributes.lineHeight vertical amount p told := by
  let next := (Relay.arbitrate Arbiter.settleLifted).run r
  have hstage : next.state.arbiter.stage? ≠ some .lifted := Arbiter.stage_settleLifted r.arbiter
  have hline : next.state.arbiter.dispatcher.attached = true :=
    (Arbiter.attached_settleLifted r.arbiter).trans line
  rcases run_wheelInputs (w := w) hstage hline vertical amount p t with
    ⟨tracker, told, hrun, hdelivers⟩
  rcases Arbiter.settling_settleLifted r.arbiter with ⟨settled, heffects, hsettled⟩
  cases hinputs : w.wheelInputs vertical amount p t with
  | nil =>
      -- No step is to be told, so nothing is settled for it.
      rw [hinputs] at hrun
      have hnone : told = [] := List.map_eq_nil_iff.1 (congrArg Outcome.effects hrun).symm
      rw [hnone] at hdelivers
      exact ⟨[], [], r, rfl, .inl rfl, hdelivers⟩
  | cons input inputs =>
      have hfirst : Relay.SettlesFirst (Action.each Relay.scroll (input :: inputs)) :=
        (Relay.settlesFirst_scroll input).bind _
      rw [hinputs] at hrun
      refine ⟨settled, told, { next.state with tracker := tracker }, ?_, hsettled, hdelivers⟩
      rw [hfirst.run_eq r, hrun, List.map_append, ← heffects]
      rfl

/-! ## Messages -/

theorem step_wheel {K : Type} [Scalar K] {m : Message} {vertical : Bool}
    (wheel : m.wheel? = some vertical) :
    (step (.message m) : Act K (Window K) _) =
      Except.map .response <$> mouseWheel vertical m := by
  unfold Message.wheel? at wheel
  split at wheel
  · rename_i hkind
    cases wheel
    simp only [step, handle, hkind, handleKind]
  · rename_i hkind
    cases wheel
    simp only [step, handle, hkind, handleKind]
  · cases wheel

/-- A wheel message whose position can be made out is told. -/
theorem run_wheel (line : w.relay.arbiter.dispatcher.attached = true) {m : Message}
    {vertical : Bool} (wheel : m.wheel? = some vertical) {p : Point Rat}
    (placed : w.screenPoint m = .ok p) :
    ∃ settled told r', (step (.message m)).run w =
        ⟨.ok (.response (.handled 0)), { w with relay := r' },
          (settled ++ told).map Effect.callback⟩ ∧
      w.relay.arbiter.Settling settled ∧
        Delivers w.relay.attributes.lineHeight vertical (hiSigned m.wParam32) p told := by
  rcases run_wheelInputs_any (w := w) line vertical (hiSigned m.wParam32) p
    (Time.ofMillis m.time.toNat) with ⟨settled, told, r', hrun, hsettled, hdelivers⟩
  refine ⟨settled, told, r', ?_, hsettled, hdelivers⟩
  rw [step_wheel wheel]
  simp [mouseWheel, relaying, placed, hrun, Except.map]

/-- Any other wheel message is abandoned. -/
theorem run_wheel_abandoned {m : Message} {vertical : Bool} (wheel : m.wheel? = some vertical)
    {fault : Fault} (lost : w.screenPoint m = .error fault) :
    (step (.message m)).run w = ⟨.error fault, w, []⟩ := by
  rw [step_wheel wheel]
  simp [mouseWheel, lost, Except.map]

/-! ## While the wheel rests -/

section Rests

variable {K α : Type} [Scalar K]

open Act

omit [Scalar K] in
theorem rests_relaying {m : Act K (Relay K) α} (h : Rests id m) :
    Rests Window.relay (relaying m) where
  attributes w := h.attributes w.relay
  line w := h.line w.relay
  tracker w := h.tracker w.relay
  unscrolled w := h.unscrolled w.relay

omit [Scalar K] in
theorem rests_handled {m : Act K (Relay K) Unit} (h : Rests id m) :
    Rests Window.relay (handled m) :=
  (rests_relaying h).bind fun _ => .pure _

omit [Scalar K] in
theorem rests_setClientOrigin (x y : Int) :
    Rests Window.relay (setClientOrigin x y : Act K (Window K) Unit) :=
  .modify (fun _ => rfl) (fun _ => rfl) fun _ => rfl

theorem rests_setDpi (dpi : UInt16) : Rests Window.relay (setDpi dpi : Act K (Window K) Unit) := by
  unfold setDpi
  split
  · exact .warnIf true .zeroDpi
  · exact .modify (fun _ => rfl) (fun _ => rfl) fun _ => rfl

theorem rests_mouseButton (b : NativeButton) (t : ButtonTransition) (m : Message) :
    Rests Window.relay (mouseButton b t m : Act K (Window K) Response) := by
  refine .get_bind fun w => ?_
  cases buttonOf? b m with
  | none => exact (Rests.warnIf true .unknownExtendedButton).bind fun _ => .pure _
  | some button => exact (rests_relaying (Relay.rests_pointer _)).bind fun _ => .pure _

theorem rests_hitTest (m : Message) (defaultHit : Int) :
    Rests Window.relay (hitTest m defaultHit : Act K (Window K) _) := by
  refine .get_bind fun w => ?_
  split
  · cases w.screenPoint m with
    | error fault => exact .pure _
    | ok p =>
        refine (rests_relaying (Relay.rests_dispatch (Dispatcher.tells_hitTest rfl))).bind
          fun hit => ?_
        cases hit <;> exact .pure _
  · exact .pure _

omit [Scalar K] in
theorem rests_imeComposition (c : Composition) :
    Rests Window.relay (imeComposition c : Act K (Window K) _) := by
  refine rests_relaying (Relay.rests_request (Editing.Quiet.map ?_ _))
  exact (Editing.Quiet.doWhen _ (InputMethod.quiet_setComposingText _ _ _)).bind fun _ =>
    (Editing.Quiet.doWhen _ ((InputMethod.quiet_insertText _ _).map _)).bind fun _ =>
      .doWhen _ (InputMethod.quiet_setComposingText _ _ _)

/-- Any message but those of the wheel. -/
theorem rests_handleKind (m : Message) {kind : MessageKind} (vertical : kind ≠ .mouseWheel)
    (horizontal : kind ≠ .mouseHWheel) :
    Rests Window.relay (handleKind m kind : Act K (Window K) _) := by
  cases kind with
  | mouseMove => exact .get_bind fun w => rests_handled (Relay.rests_pointer _)
  | mouseLeave => exact rests_handled Relay.rests_pointerLeft
  | button b t => exact (rests_mouseButton b t m).map _
  | captureChanged => exact rests_handled Relay.rests_captureLost
  | mouseWheel => exact absurd rfl vertical
  | mouseHWheel => exact absurd rfl horizontal
  | setFocus => exact rests_handled (Relay.rests_focus true)
  | killFocus => exact rests_handled (Relay.rests_focus false)
  | move => exact (rests_setClientOrigin _ _).bind fun _ => .pure _
  | ncHitTest => exact .pure _
  | size => exact rests_handled (Relay.rests_notify rfl)
  | dpiChanged => exact (rests_setDpi _).bind fun _ => rests_handled (Relay.rests_notify rfl)
  | paint =>
      exact (rests_relaying Relay.rests_settleLifted).bind fun _ =>
        (rests_relaying (Relay.rests_notify rfl)).bind fun _ => .pure _
  | close =>
      exact (rests_relaying (Relay.rests_dispatch (Dispatcher.tells_shouldClose rfl))).bind
        fun _ => .pure _
  | destroy => exact rests_handled Relay.rests_close
  | imeStartComposition =>
      exact (rests_relaying (Relay.rests_dispatch Dispatcher.tells_hasEditor)).bind
        fun _ => .pure _
  | imeComposition => exact .pure _
  | imeEndComposition =>
      exact rests_relaying (Relay.rests_query ((Editing.Quiet.setComposition none).map _))

theorem rests_step {c : Call K} (native : c.isNative = true) (still : c.wheel? = none) :
    Rests Window.relay (step c) := by
  cases c with
  | message m =>
      refine Rests.map ?_ _
      simp only [Call.wheel?, Message.wheel?] at still
      unfold handle
      cases hkind : MessageKind.ofNumber? m.number with
      | none => exact .pure _
      | some kind =>
          rw [hkind] at still
          exact rests_handleKind m (by rintro rfl; cases still) (by rintro rfl; cases still)
  | hitTest m defaultHit => exact (rests_hitTest m defaultHit).map _
  | setClientOrigin x y => exact (rests_setClientOrigin x y).bind fun _ => .pure _
  | composition c => exact (rests_imeComposition c).map _
  | relay c => cases native

end Rests

/-! ## Runs -/

/-- Scrolling does not touch the attributes and mends no line either. -/
theorem steady_scrolls {K : Type} [Scalar K] (inputs : List (ScrollInput K)) (r : Relay K) :
    let next := ((Action.each Relay.scroll inputs).run r).state
    next.attributes = r.attributes ∧
      (next.dispatcher.attached = true → r.dispatcher.attached = true) := by
  have hattributes (input : ScrollInput K) : Act.Keeps Relay.attributes (Relay.scroll input) := by
    refine .bind (fun _ => rfl) fun _ => .bind (fun _ => rfl) fun event => ?_
    cases event <;> exact fun _ => rfl
  induction inputs generalizing r with
  | nil =>
      exact ⟨rfl, id⟩
  | cons input inputs ih =>
      rcases ih ((Relay.scroll input).run r).state with ⟨hkept, hline⟩
      refine ⟨hkept.trans (hattributes input r), fun h => ?_⟩
      exact (Relay.plays_scroll input r).attached_before (hline h)

theorem steady_step {K : Type} [Scalar K] {c : Call K} (native : c.isNative = true)
    (w : Window K) :
    let next := ((step c).run w).state
    next.relay.attributes = w.relay.attributes ∧
      (next.relay.dispatcher.attached = true → w.relay.dispatcher.attached = true) := by
  cases hwheel : c.wheel? with
  | none =>
      have hrests := rests_step native hwheel
      exact ⟨hrests.attributes w, hrests.line w⟩
  | some vertical =>
      cases c with
      | message m =>
          intro next
          have hnext : next = ((mouseWheel vertical m).run w).state := by
            simp only [next, step_wheel hwheel, Action.run_map]
          rw [hnext, mouseWheel, Action.run_bind, Action.run_get]
          cases w.screenPoint m with
          | error fault => exact ⟨rfl, id⟩
          | ok p => exact steady_scrolls _ w.relay
      | _ => cases hwheel

theorem steady_replay {K : Type} [Scalar K] {calls : List (Call K)}
    (native : ∀ c ∈ calls, c.isNative = true) (w : Window K) :
    let next := ((Action.replay step calls).run w).state
    next.relay.attributes = w.relay.attributes ∧
      (next.relay.dispatcher.attached = true → w.relay.dispatcher.attached = true) := by
  induction calls generalizing w with
  | nil =>
      exact ⟨rfl, id⟩
  | cons c calls ih =>
      rcases steady_step (native c (List.mem_cons_self ..)) w with ⟨hkept, hline⟩
      rcases ih (fun c hc => native c (List.mem_cons_of_mem _ hc)) ((step c).run w).state with
        ⟨hkept', hline'⟩
      rw [Action.run_replay_cons]
      exact ⟨hkept'.trans hkept, fun h => hline (hline' h)⟩

/-- One call moves the contents by what it asks for. -/
theorem travel_step {c : Call Rat} (native : c.isNative = true) {w : Window Rat}
    (line : w.relay.dispatcher.attached = true) :
    let out := (step c).run w
    Effect.travel w.relay.attributes.lineHeight out.effects =
      c.travel w.relay.attributes.lineHeight out.value := by
  intro out
  cases hwheel : c.wheel? with
  | none =>
      have hrests := rests_step native hwheel
      rw [Call.travel_of_not_wheel hwheel]
      exact Effect.travel_eq_zero (hrests.unscrolled w)
  | some vertical =>
      cases c with
      | message m =>
          have hm : m.wheel? = some vertical := hwheel
          rcases screenPoint_cases w m with ⟨p, placed⟩ | ⟨lost, -⟩
          · rcases run_wheel line hm placed with ⟨settled, told, r', hrun, hsettled, hdelivers⟩
            have hout : out = _ := hrun
            rw [hout, List.map_append, Effect.travel_append,
              Effect.travel_eq_zero hsettled.unscrolled, Delta.zero_add, Effect.travel_callbacks,
              hdelivers.travel]
            simp [Call.travel, hm]
          · have hout : out = _ := run_wheel_abandoned hm lost
            rw [hout]
            rfl
      | _ => cases hwheel

theorem travel_replay {calls : List (Call Rat)} (native : ∀ c ∈ calls, c.isNative = true)
    {w : Window Rat}
    (line : ((Action.replay step calls).run w).state.relay.dispatcher.attached = true) :
    let run := (Action.replay step calls).run w
    Effect.travel w.relay.attributes.lineHeight run.effects =
      Delta.sum (List.zipWith (Call.travel w.relay.attributes.lineHeight) calls run.value) := by
  induction calls generalizing w with
  | nil =>
      rfl
  | cons c calls ih =>
      have hfirst : c.isNative = true := native c (List.mem_cons_self ..)
      have hrest : ∀ c ∈ calls, c.isNative = true :=
        fun c hc => native c (List.mem_cons_of_mem _ hc)
      let next := ((step c).run w).state
      rw [Action.run_replay_cons] at line ⊢
      rcases steady_step hfirst w with ⟨hkept, hline⟩
      have hnext : next.relay.dispatcher.attached = true := (steady_replay hrest next).2 line
      have htold := ih hrest line
      rw [hkept] at htold
      simp only [List.zipWith_cons_cons]
      rw [Effect.travel_append, travel_step hfirst (hline hnext), htold]
      rfl

end Window
end Win32

/-! ## The main result -/

open Win32 in
/-- Whatever happens to a window that stays attached, a message of its wheel is told in full, as
steps alone or as one delta, unless the window is too far away for the position to be made out.
All messages together move the contents by what those of them that are answered ask for. -/
theorem wheel_travel_is_conserved (w : Window Rat) (calls : List (Win32.Call Rat))
    (native : ∀ c ∈ calls, c.isNative = true)
    (line : ((Action.replay Window.step calls).run w).state.relay.dispatcher.attached = true) :
    let run := (Action.replay Window.step calls).run w
    let lineHeight := w.relay.attributes.lineHeight
    (∀ before m vertical after, calls = before ++ .message m :: after →
      m.wheel? = some vertical →
      let s := ((Action.replay Window.step before).run w).state
      let out := (Window.step (.message m)).run s
      s.relay.attributes.lineHeight = lineHeight ∧
        ((∃ p settled told, s.screenPoint m = .ok p ∧
            out.value = .ok (.response (.handled 0)) ∧
            out.effects = (settled ++ told).map Effect.callback ∧
            s.relay.arbiter.Settling settled ∧
            Delivers lineHeight vertical (hiSigned m.wParam32) p told ∧ told.length ≤ 273) ∨
          (out = ⟨.error .pixelOverflow, s, []⟩ ∧
            (2147450880 < s.clientOrigin.1.natAbs ∨ 2147450880 < s.clientOrigin.2.natAbs)))) ∧
      Effect.travel lineHeight run.effects =
        Delta.sum (List.zipWith (Call.travel lineHeight) calls run.value) := by
  intro run lineHeight
  refine ⟨?_, Window.travel_replay native line⟩
  rintro before m vertical after rfl hwheel s out
  have hbefore : ∀ c ∈ before, c.isNative = true := fun c hc => native c (List.mem_append_left _ hc)
  have hafter : ∀ c ∈ .message m :: after, c.isNative = true :=
    fun c hc => native c (List.mem_append_right _ hc)
  have hkept : s.relay.attributes = w.relay.attributes := (Window.steady_replay hbefore w).1
  have hheight : s.relay.attributes.lineHeight = lineHeight := congrArg _ hkept
  rw [Action.replay_append_state] at line
  -- A line that is intact in the end was never cut.
  have hline : s.relay.dispatcher.attached = true := (Window.steady_replay hafter s).2 line
  refine ⟨hheight, ?_⟩
  rcases Window.screenPoint_cases s m with ⟨p, placed⟩ | ⟨lost, hfar⟩
  · rcases Window.run_wheel hline hwheel placed with
      ⟨settled, told, r', hrun, hsettled, hdelivers⟩
    have hout : out = _ := hrun
    rw [hheight] at hdelivers
    refine .inl ⟨p, settled, told, placed, ?_, ?_, hsettled, hdelivers, hdelivers.length_le⟩
    · rw [hout]
    · rw [hout]
  · exact .inr ⟨Window.run_wheel_abandoned hwheel lost, hfar⟩

/-- Two notches up, half a notch to the left, and down as far as a message can tell. -/
theorem wheel_travel_is_conserved_on_both_axes :
    let w := (Win32.Window.attach (.detached ⟨1⟩) (Attributes.standard (K := Rat)) Listener.deaf
      96).state
    let calls : List (Win32.Call Rat) :=
      [.message ⟨0x020A, 0x00F00000, 0, 0⟩, .setClientOrigin 30 40,
        .message ⟨0x020E, 0xFFC40000, 0, 0⟩, .message ⟨0x020A, 0x80000000, 0, 0⟩]
    let run := (Action.replay Win32.Window.step calls).run w
    (∀ c ∈ calls, c.isNative = true) ∧ run.state.relay.dispatcher.attached = true ∧
      Effect.travel 40 run.effects = ⟨20, 80 - 32768 / 3⟩ := by
  intro w calls run
  have hnative : ∀ c ∈ calls, c.isNative = true := by
    simp [calls, Win32.Call.isNative]
  have hline : run.state.relay.dispatcher.attached = true := by
    decide +kernel
  have htravel := (wheel_travel_is_conserved w calls hnative hline).2
  have hasked : Delta.sum (List.zipWith (Win32.Call.travel 40) calls run.value) =
      ⟨20, 80 - 32768 / 3⟩ := by
    decide +kernel
  exact ⟨hnative, hline, htravel.trans hasked⟩

/-- One notch of the wheel, at a window as far to the left as its origin can tell. -/
theorem wheel_travel_is_lost :
    let w := (Win32.Window.attach (.detached ⟨1⟩) (Attributes.standard (K := Rat)) Listener.deaf
      96).state
    let notch : Win32.Message := ⟨0x020A, 0x00780000, 0, 0⟩
    let calls : List (Win32.Call Rat) := [.setClientOrigin (-2147483648) 0, .message notch]
    let run := (Action.replay Win32.Window.step calls).run w
    (∀ c ∈ calls, c.isNative = true) ∧ run.state.relay.dispatcher.attached = true ∧
      notch.wheel? = some true ∧ Win32.hiSigned notch.wParam32 = 120 ∧
      run.value = [.ok .done, .error .pixelOverflow] ∧ run.effects = [] ∧
      Effect.travel 40 run.effects ≠ Win32.wheelTravel 40 true 120 := by
  intro w notch calls run
  have hnative : ∀ c ∈ calls, c.isNative = true := by
    simp [calls, Win32.Call.isNative]
  let far : Win32.Window Rat := { w with clientOrigin := (-2147483648, 0) }
  have hlost : far.screenPoint notch = .error .pixelOverflow :=
    Win32.Window.screenPoint_error (by decide +kernel)
  have hnotch : (Win32.Window.step (.message notch)).run far = ⟨.error .pixelOverflow, far, []⟩ :=
    Win32.Window.run_wheel_abandoned rfl hlost
  have hrun : run = ⟨[.ok .done, .error .pixelOverflow], far, []⟩ := by
    simp only [run, calls, Action.run_replay_cons, Action.run_replay_nil]
    change Outcome.mk (_ :: ((Win32.Window.step (.message notch)).run far).value :: _)
      ((Win32.Window.step (.message notch)).run far).state
      (_ ++ (((Win32.Window.step (.message notch)).run far).effects ++ _)) = _
    rw [hnotch]
    rfl
  have htravel : Effect.travel 40 [] ≠ Win32.wheelTravel 40 true 120 := by
    decide +kernel
  rw [hrun]
  exact ⟨hnative, rfl, rfl, by decide, rfl, rfl, htravel⟩

end WindowRelay

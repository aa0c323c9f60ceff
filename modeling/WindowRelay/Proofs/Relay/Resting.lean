import WindowRelay.Proofs.Gesture.Buttons
import WindowRelay.Proofs.Relay.Lanes

/-!
# Resting — while nothing is scrolled

Most of what happens to a window scrolls nothing by itself.  It may open drags, end gestures and
tell the listener all sorts of things, but no step, no delta and no stop is among them, and it
begins no scroll gesture.  It does not touch the attributes either, never mends a line that is cut,
and leaves the tracker alone unless it cuts the line.

- `Act.Rests`: operations of this sort.
- *Arbiters* and *Relays*: the operations that are.
-/

namespace WindowRelay

/-! ## What the listener itself hears of scrolling -/

/-- A step, a delta or a stop for the listener itself, or the beginning of a gesture. -/
def Callback.isScroll {K : Type} : Callback K → Bool
  | .scrollDiscrete _ _ | .scrollContinuous _ _ _ | .scrollStop _ | .beginScroll _ _ => true
  | _ => false

namespace Effect

variable {K : Type} {e : Effect K} {es : List (Effect K)}

def isScroll : Effect K → Bool
  | .callback c => c.isScroll
  | _ => false

theorem isScroll_of_isAside (h : e.isAside = true) : e.isScroll = false := by
  cases e with
  | callback c => cases h
  | access a => rfl
  | warning w => rfl

end Effect

namespace Act

variable {K σ α β : Type} {P : Effect K → Prop} {view : σ → Relay K}

abbrev Unscrolled (m : Act K σ α) : Prop :=
  Emits (fun e => e.isScroll = false) m

/-- Whatever the state, `m` scrolls nothing, keeps the attributes, mends no line, and keeps the
tracker as long as the line holds. -/
structure Rests (view : σ → Relay K) (m : Act K σ α) : Prop where
  attributes : Keeps (fun s => (view s).attributes) m
  line : ∀ s, (view (m.run s).state).dispatcher.attached = true →
    (view s).dispatcher.attached = true
  tracker : ∀ s, (view (m.run s).state).dispatcher.attached = true →
    (view (m.run s).state).tracker = (view s).tracker
  unscrolled : Unscrolled m

namespace Rests

theorem pure (x : α) : Rests view (pure x : Act K σ α) :=
  ⟨.pure x, fun _ h => h, fun _ _ => rfl, .pure x⟩

theorem modify {f : σ → σ} (hattributes : ∀ s, (view (f s)).attributes = (view s).attributes)
    (hline : ∀ s, (view (f s)).dispatcher.attached = (view s).dispatcher.attached)
    (htracker : ∀ s, (view (f s)).tracker = (view s).tracker) :
    Rests view (modify f : Act K σ Unit) where
  attributes := .modify hattributes
  line s h := by
    rwa [Action.run_modify, hline s] at h
  tracker s _ := htracker s
  unscrolled := .modify f

theorem bind {m : Act K σ α} {f : α → Act K σ β} (hm : Rests view m)
    (hf : ∀ x, Rests view (f x)) : Rests view (m >>= f) where
  attributes := .bind hm.attributes fun x => (hf x).attributes
  line s h := hm.line s ((hf _).line _ h)
  tracker s h := ((hf _).tracker _ h).trans (hm.tracker s ((hf _).line _ h))
  unscrolled := .bind hm.unscrolled fun x => (hf x).unscrolled

/-- What is done may depend on the state it is done to. -/
theorem get_bind {f : σ → Act K σ β} (hf : ∀ s, Rests view (f s)) : Rests view (get >>= f) where
  attributes := .get_bind fun s => (hf s).attributes s
  line s h := (hf s).line s h
  tracker s h := (hf s).tracker s h
  unscrolled := .bind .get fun s => (hf s).unscrolled

theorem warnIf (condition : Bool) (w : Warning) :
    Rests view (warnIf condition w : Act K σ Unit) where
  attributes := .warnIf condition w
  line s h := by
    rwa [run_warnIf] at h
  tracker s _ := by
    rw [run_warnIf]
  unscrolled s e he := by
    cases condition with
    | false => cases he
    | true =>
        cases List.mem_singleton.1 he
        rfl

theorem map {m : Act K σ α} (h : Rests view m) (f : α → β) : Rests view (f <$> m) := by
  rw [map_eq_pure_bind]
  exact h.bind fun _ => .pure _

end Rests

end Act

/-! ## Arbiters -/

namespace Arbiter

open Act

variable {K : Type}

theorem unscrolled_settleLifted : Unscrolled (settleLifted : Act K (Arbiter K) Unit) :=
  emits_settleLifted (fun _ => rfl) fun _ _ => rfl

theorem unscrolled_finishDrag (how : Ending) :
    Unscrolled (finishDrag how : Act K (Arbiter K) Bool) :=
  emits_finishDrag fun _ => rfl

theorem unscrolled_cancelAll : Unscrolled (cancelAll : Act K (Arbiter K) Unit) :=
  emits_cancelAll (fun _ => rfl) (fun _ _ => rfl) fun _ _ => rfl

theorem unscrolled_pointer (e : PointerEvent K) (dragGestures : Bool) :
    Unscrolled (pointer e dragGestures) := by
  refine (emits_pointer e dragGestures).mono fun _ h => ?_
  cases h <;> rfl

theorem unscrolled_closed : Unscrolled (dispatch Dispatcher.closed : Act K (Arbiter K) Unit) :=
  .dispatch (emits_closed rfl rfl)

end Arbiter

/-! ## Relays -/

namespace Relay

open Act

variable {K α : Type} {P : Effect K → Prop}

theorem rests_arbitrate {m : Act K (Arbiter K) α} (plays : Plays P id m)
    (unscrolled : Unscrolled m) : Rests id (arbitrate m) where
  attributes _ := rfl
  line r h := (plays r.arbiter).attached_before h
  tracker _ _ := rfl
  unscrolled r := unscrolled r.arbiter

theorem rests_dispatch {m : Act K (Dispatcher K) α}
    (tells : Dispatcher.Tells (fun e => e.isScroll = false) m) : Rests id (dispatch m) where
  attributes _ := rfl
  line r h := by
    rcases (tells r.dispatcher).1 with ⟨l, hl⟩
    have hstate : ((dispatch m).run r).state.dispatcher = { r.dispatcher with listener := l } := hl
    rwa [id, hstate] at h
  tracker _ _ := rfl
  unscrolled r := (tells r.dispatcher).2

theorem rests_notify {c : Callback K} (h : c.isScroll = false) :
    Rests id (dispatch (Dispatcher.notify c)) :=
  rests_dispatch (Dispatcher.tells_notify h)

theorem rests_edit {m : Act K (Editor K) α}
    (hm : ∀ e, ∀ x ∈ (m.run e).effects, x.isAside = true) : Rests id (edit m) :=
  rests_dispatch (Dispatcher.tells_edit hm fun _ => Effect.isScroll_of_isAside)

theorem rests_request {m : Editing K α} {name : String} {missing : α} (h : Editing.Quiet m) :
    Rests id (request name missing m) := by
  refine .bind (rests_edit h) fun answer => ?_
  cases answer with
  | none => exact (Rests.warnIf true _).bind fun _ => .pure _
  | some answer => exact .pure _

theorem rests_query {m : Editing K α} {missing : α} (h : Editing.Quiet m) :
    Rests id (query missing m) := by
  refine .bind (rests_edit h) fun answer => ?_
  cases answer with
  | none => exact .pure _
  | some answer => exact .pure _

theorem rests_settleLifted : Rests id (arbitrate Arbiter.settleLifted : Act K (Relay K) Unit) :=
  rests_arbitrate Arbiter.plays_settleLifted Arbiter.unscrolled_settleLifted

theorem rests_cancelAll : Rests id (arbitrate Arbiter.cancelAll : Act K (Relay K) Unit) :=
  rests_arbitrate Arbiter.plays_cancelAll Arbiter.unscrolled_cancelAll

theorem rests_forgetButtons : Rests id (forgetButtons : Act K (Relay K) Unit) :=
  .modify (fun _ => rfl) (fun _ => rfl) fun _ => rfl

theorem rests_hold (e : PointerEvent K) : Rests id (modify (hold e) : Act K (Relay K) Unit) := by
  refine .modify (fun r => ?_) (fun r => ?_) fun r => ?_
  all_goals
    rcases hold_eq e r with ⟨m, hm⟩
    rw [id, hm]
    rfl

theorem rests_attributesOf : Rests id (attributesOf : Act K (Relay K) (Attributes K)) :=
  .get_bind fun _ => .pure _

theorem rests_route (e : PointerEvent K) : Rests id (route e) :=
  (rests_hold e).bind fun _ => rests_attributesOf.bind fun attributes =>
    rests_arbitrate (Arbiter.plays_pointer e attributes.dragGestures)
      (Arbiter.unscrolled_pointer e attributes.dragGestures)

theorem rests_pointer (e : PointerEvent K) : Rests id (pointer e) := by
  refine rests_settleLifted.bind fun _ => .get_bind fun r => (Rests.warnIf _ _).bind fun _ => ?_
  cases e.primary? with
  | none => exact .pure ()
  | some e => exact rests_route e

theorem rests_pointerLeft : Rests id (pointerLeft : Act K (Relay K) Unit) :=
  rests_settleLifted.bind fun _ => rests_notify rfl

theorem rests_captureLost : Rests id (captureLost : Act K (Relay K) Unit) :=
  rests_forgetButtons.bind fun _ =>
    (rests_arbitrate (Arbiter.plays_cancel .drag) (Arbiter.unscrolled_finishDrag .cancel)).bind
      fun _ => .pure ()

theorem rests_focus (gained : Bool) : Rests id (focus gained : Act K (Relay K) Unit) := by
  cases gained with
  | true => exact rests_notify rfl
  | false =>
      exact rests_cancelAll.bind fun _ => rests_forgetButtons.bind fun _ => rests_notify rfl

/-- The close resets the tracker too, and cuts the line. -/
theorem rests_close : Rests id (close : Act K (Relay K) Unit) where
  attributes _ := rfl
  line r h := absurd ((attached_close r).symm.trans h) Bool.false_ne_true
  tracker r h := absurd ((attached_close r).symm.trans h) Bool.false_ne_true
  unscrolled :=
    .bind (fun r => Arbiter.unscrolled_cancelAll r.arbiter) fun _ => .bind (.modify _) fun _ =>
      .bind (.modify _) fun _ => fun r => Arbiter.unscrolled_closed r.arbiter

end Relay
end WindowRelay

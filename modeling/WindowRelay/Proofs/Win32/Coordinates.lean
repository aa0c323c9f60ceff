import Mathlib.Algebra.Order.Ring.Rat
import WindowRelay.Proofs.Gesture.Frames
import WindowRelay.Proofs.Win32.Travel

/-!
# Coordinates — one point for two kinds of positions

A window is told its resolution and the place of its client area now and then, and never asks for
either.  What it knows of them is what it was told last, where a resolution of zero counts for
nothing.  Messages tell of positions in pixels, some relative to the client area and some to the
screen.  As long as the window knows the right place, both lead to the same point.

- `Win32.Call.dpi?`, `Win32.Call.origin?`: how a window is told.
- `Win32.scaleAfter`: the scale factor after some resolutions.
- `Win32.Window.Reports`: a call that tells of one point and of no other.
- `coordinates_agree`: the scale factor, the origin and the points in any run.
-/

namespace WindowRelay

/-! ## Points that are told -/

def Callback.position? {K : Type} : Callback K → Option (Point K)
  | .mouseMotion p | .mouseButton p _ _ | .hitTest p | .scrollDiscrete p _
  | .scrollContinuous p _ _ | .beginDrag _ p _ | .beginScroll _ p | .drag _ (.motion p)
  | .drag _ (.mouseDown p _) | .drag _ (.mouseUp p _) => some p
  | _ => none

namespace Effect

variable {K : Type} {p : Point K} {e : Effect K}

def position? : Effect K → Option (Point K)
  | .callback c => c.position?
  | _ => none

/-- No point but `p` is told. -/
def At (p : Point K) (e : Effect K) : Prop :=
  ∀ q, e.position? = some q → q = p

theorem at_of_position (h : e.position? = some p) : e.At p := by
  intro q hq
  rw [h] at hq
  exact (Option.some.inj hq).symm

theorem at_of_none (h : e.position? = none) : e.At p := by
  intro q hq
  rw [h] at hq
  cases hq

end Effect

namespace Arbiter

variable {K : Type} {a : Arbiter K} {e : Effect K}

theorem Utters.at {p : Point K} {b? : Option MouseButton} (h : Utters p b? e) : e.At p := by
  cases h with
  | release n => exact Effect.at_of_none rfl
  | _ => exact Effect.at_of_position rfl

/-- The listener or the drag hears of every event. -/
theorem told_pointer (e : PointerEvent K) (dragGestures : Bool)
    (line : a.dispatcher.attached = true) :
    ∃ x ∈ ((pointer e dragGestures).run a).effects, x.position? = some e.position := by
  cases hbutton : e.button with
  | none =>
      simp only [pointer, hbutton]
      cases hdrag : a.drag.session with
      | some s =>
          rw [run_motion_drag e.position hdrag]
          exact ⟨_, List.mem_singleton_self _, rfl⟩
      | none =>
          rw [run_motion_listener e.position hdrag, run_notify_attached _ line]
          exact ⟨_, List.mem_singleton_self _, rfl⟩
  | some b =>
      simp only [pointer, hbutton, Action.run_bind, run_notify_attached _ line]
      exact ⟨_, List.mem_cons_self .., rfl⟩

end Arbiter

theorem PhaseTracker.position_track {K : Type} [Scalar K] {t : PhaseTracker} {input : ScrollInput K}
    {e : ScrollEvent K} (h : (t.track input).2 = some e) : e.position = input.position := by
  rcases input with ⟨p, amount, isStop, time⟩
  cases isStop <;> cases amount <;> cases hphase : t.phase.settled <;>
    simp [track, classify, hphase] at h <;> rw [← h]

namespace Relay

open Act

variable {K α : Type} {P : Effect K → Prop} {p : Point K}

theorem emits_arbitrate {m : Act K (Arbiter K) α} (h : Emits P m) : Emits P (arbitrate m) :=
  fun r => h r.arbiter

theorem at_settleLifted : Emits (Effect.At p) (arbitrate Arbiter.settleLifted) :=
  emits_arbitrate (Arbiter.emits_settleLifted (fun _ => Effect.at_of_none rfl)
    fun _ _ => Effect.at_of_none rfl)

/-- No other point is told of a pointer event than its own. -/
theorem at_pointer (e : PointerEvent K) (primary : e.primary? = some e) :
    Emits (Effect.At e.position) (pointer e) := by
  have hroute : Emits (Effect.At e.position) (route e) :=
    .bind (.modify _) fun _ => .bind (.bind .get fun _ => .pure _) fun _ =>
      emits_arbitrate ((Arbiter.emits_pointer e _).mono fun _ => Arbiter.Utters.at)
  refine .bind at_settleLifted fun _ => .bind .get fun r => .bind ?_ fun _ => ?_
  · exact .ite (.warn (Effect.at_of_none rfl)) (.pure _)
  · rw [primary]
    exact hroute

theorem told_pointer {e : PointerEvent K} (primary : e.primary? = some e) {r : Relay K}
    (line : r.dispatcher.attached = true) :
    ∃ x ∈ ((pointer e).run r).effects, x.position? = some e.position := by
  have hline : (Arbiter.settleLifted.run r.arbiter).state.dispatcher.attached = true :=
    (Arbiter.attached_settleLifted r.arbiter).trans line
  rcases Arbiter.told_pointer e r.attributes.dragGestures hline with ⟨x, hx, hposition⟩
  refine ⟨x, ?_, hposition⟩
  simp only [pointer, arbitrate, Action.run_bind, Action.run_within, Action.run_get,
    Act.run_warnIf, primary]
  refine List.mem_append_right _ (List.mem_append_right _ (List.mem_append_right _ ?_))
  cases hbutton : e.button <;> simpa [route, attributesOf, arbitrate, hold, hbutton] using hx

variable [Scalar K]

theorem at_scroll (input : ScrollInput K) : Emits (Effect.At input.position) (scroll input) := by
  refine .bind at_settleLifted fun _ r => ?_
  have hdispatch (e : ScrollEvent K) :
      Emits (Effect.At e.position) (dispatch (Dispatcher.scroll e)) := by
    unfold Dispatcher.scroll
    cases e.kind with
    | discrete => exact emits_arbitrate (Arbiter.emits_notify (Effect.at_of_position rfl))
    | precise => exact emits_arbitrate (Arbiter.emits_notify (Effect.at_of_position rfl))
    | momentumStop => exact emits_arbitrate (Arbiter.emits_notify (Effect.at_of_none rfl))
  simp only [trackScroll, Action.run_bind, Action.run_get, Action.run_set, Action.run_pure,
    List.nil_append, List.append_nil]
  cases htrack : (r.tracker.track input).2 with
  | none =>
      intro x hx
      cases hx
  | some e =>
      rw [← PhaseTracker.position_track htrack]
      exact hdispatch e _

end Relay

namespace Win32

/-! ## What a window is told of itself -/

namespace Call

variable {K : Type}

/-- The resolution that a call tells the window. -/
def dpi? : Call K → Option UInt16
  | .message m =>
      match MessageKind.ofNumber? m.number with
      | some .dpiChanged => some (loWord m.wParam32)
      | _ => none
  | _ => none

/-- The corner of the client area that a call tells the window, in pixels of the screen. -/
def origin? : Call K → Option (Int × Int)
  | .message m =>
      match MessageKind.ofNumber? m.number with
      | some .move => some (loSigned m.lParam32, hiSigned m.lParam32)
      | _ => none
  | .setClientOrigin x y => some (x, y)
  | _ => none

end Call

/-- The scale factor after some resolutions: the last one that is not zero, in units of 96. -/
def scaleAfter (dpis : List UInt16) : Rat :=
  ((dpis.filter (· ≠ 0)).getLast?.map fun dpi => (dpi.toNat : Rat) / 96).getD 1

theorem scaleAfter_append_zero (dpis : List UInt16) :
    scaleAfter (dpis ++ [0]) = scaleAfter dpis := by
  simp [scaleAfter]

theorem scaleAfter_append {dpi : UInt16} (h : dpi ≠ 0) (dpis : List UInt16) :
    scaleAfter (dpis ++ [dpi]) = dpi.toNat / 96 := by
  simp [scaleAfter, h]

theorem scaleAfter_pos (dpis : List UInt16) : 0 < scaleAfter dpis := by
  unfold scaleAfter
  cases hlast : (dpis.filter (· ≠ 0)).getLast? with
  | none =>
      exact zero_lt_one
  | some dpi =>
      have hmem := List.mem_of_getLast? hlast
      have hdpi : dpi ≠ 0 := of_decide_eq_true (List.mem_filter.1 hmem).2
      have hpos : 0 < dpi.toNat := Nat.pos_of_ne_zero fun h => hdpi (UInt16.toNat_inj.1 h)
      have hcast : (0 : Rat) < dpi.toNat := Nat.cast_pos.2 hpos
      exact div_pos hcast (by norm_num)

namespace Window

open Act

variable {K : Type} [Scalar K]

/-- What a window knows of its resolution and its place. -/
def place (w : Window K) : K × Int × Int :=
  (w.scaleFactor, w.clientOrigin)

omit [Scalar K] in
theorem keeps_relaying {α : Type} (m : Act K (Relay K) α) : Keeps place (relaying m) :=
  fun _ => rfl

omit [Scalar K] in
theorem keeps_handled (m : Act K (Relay K) Unit) : Keeps place (handled m) :=
  fun _ => rfl

theorem keeps_mouseButton (b : NativeButton) (t : ButtonTransition) (m : Message) :
    Keeps place (mouseButton b t m : Act K (Window K) Response) := by
  refine .get_bind fun w => ?_
  cases buttonOf? b m <;> rfl

theorem keeps_mouseWheel (vertical : Bool) (m : Message) :
    Keeps place (mouseWheel vertical m : Act K (Window K) _) := by
  refine .get_bind fun w => ?_
  cases w.screenPoint m <;> rfl

theorem keeps_hitTest (m : Message) (defaultHit : Int) :
    Keeps place (hitTest m defaultHit : Act K (Window K) _) := by
  refine .get_bind fun w => ?_
  split
  · cases w.screenPoint m with
    | error fault => rfl
    | ok p =>
        refine Keeps.bind (keeps_relaying _) (fun hit => ?_) w
        cases hit <;> exact .pure _
  · rfl

theorem keeps_handleKind (m : Message) {kind : MessageKind} (still : kind ≠ .move)
    (same : kind ≠ .dpiChanged) : Keeps place (handleKind m kind : Act K (Window K) _) := by
  cases kind with
  | move => exact absurd rfl still
  | dpiChanged => exact absurd rfl same
  | button b t =>
      intro w
      exact keeps_mouseButton b t m w
  | mouseWheel => exact keeps_mouseWheel true m
  | mouseHWheel => exact keeps_mouseWheel false m
  | _ => exact fun _ => rfl

/-- All that a window has been told of its resolution and its place. -/
structure Knows (w : Window Rat) (dpis : List UInt16) (origins : List (Int × Int)) : Prop where
  scale : w.scaleFactor = scaleAfter dpis
  origin : w.clientOrigin = origins.getLast?.getD (0, 0)

namespace Knows

variable {w : Window Rat} {dpis : List UInt16} {origins : List (Int × Int)}

theorem of_place {v : Window Rat} (h : w.Knows dpis origins) (kept : v.place = w.place) :
    v.Knows dpis origins where
  scale := (congrArg Prod.fst kept).trans h.scale
  origin := (congrArg Prod.snd kept).trans h.origin

theorem unscaled (handle : WindowHandle) (attributes : Attributes Rat) (listener : Listener Rat) :
    (Window.unscaled handle attributes listener).Knows [] [] where
  scale := Int.cast_one
  origin := rfl

theorem setDpi (h : w.Knows dpis origins) (dpi : UInt16) :
    ((Window.setDpi dpi).run w).state.Knows (dpis ++ [dpi]) origins := by
  by_cases hzero : dpi = 0
  · have hkept : ((Window.setDpi dpi).run w).state = w := by
      simp [Window.setDpi, hzero]
    rw [hkept, hzero]
    exact ⟨by rw [scaleAfter_append_zero, h.scale], h.origin⟩
  · have hset : ((Window.setDpi dpi).run w).state = { w with scaleFactor := dpi.toNat / 96 } := by
      simp [Window.setDpi, hzero, Scalar.ofNat, Scalar.ofInt_rat, standardDpi]
    rw [hset]
    exact ⟨(scaleAfter_append hzero dpis).symm, h.origin⟩

theorem setClientOrigin (h : w.Knows dpis origins) (x y : Int) :
    ((Window.setClientOrigin x y).run w).state.Knows dpis (origins ++ [(x, y)]) where
  scale := h.scale
  origin := by
    rw [List.getLast?_concat]
    rfl

/-- A call tells the window something of itself, or leaves it with what it knows. -/
theorem step (h : w.Knows dpis origins) (c : Call Rat) :
    ((Window.step c).run w).state.Knows (dpis ++ c.dpi?.toList) (origins ++ c.origin?.toList) := by
  have hkept (hdpi : c.dpi? = none) (horigin : c.origin? = none)
      (keeps : Keeps place (Window.step c)) :
      ((Window.step c).run w).state.Knows (dpis ++ c.dpi?.toList)
        (origins ++ c.origin?.toList) := by
    simp only [hdpi, horigin, Option.toList_none, List.append_nil]
    exact h.of_place (keeps w)
  cases c with
  | message m =>
      have hstep : ((Window.step (.message m)).run w).state = ((handle m).run w).state := by
        rw [Window.step, Action.run_map]
      cases hkind : MessageKind.ofNumber? m.number with
      | none =>
          refine hkept ?_ ?_ fun v => ?_
          · simp [Call.dpi?, hkind]
          · simp [Call.origin?, hkind]
          · simp [Window.step, handle, hkind]
      | some kind =>
          by_cases hmove : kind = .move
          · subst hmove
            simp only [hstep, handle, hkind, handleKind, Call.dpi?, Call.origin?,
              Option.toList_none, List.append_nil]
            exact h.setClientOrigin _ _
          by_cases hdpi : kind = .dpiChanged
          · subst hdpi
            simp only [hstep, handle, hkind, handleKind, Call.dpi?, Call.origin?,
              Option.toList_none, List.append_nil]
            exact (h.setDpi _).of_place (keeps_handled _ _)
          refine hkept ?_ ?_ fun v => ?_
          · cases kind <;> simp_all [Call.dpi?]
          · cases kind <;> simp_all [Call.origin?]
          · rw [Window.step, Action.run_map, handle, hkind]
            exact keeps_handleKind m hmove hdpi v
  | hitTest m defaultHit =>
      refine hkept rfl rfl fun v => ?_
      rw [Window.step, Action.run_map]
      exact keeps_hitTest m defaultHit v
  | setClientOrigin x y =>
      have hnext := h.setClientOrigin x y
      rw [← List.append_nil dpis] at hnext
      exact hnext
  | composition c =>
      refine hkept rfl rfl fun v => ?_
      rw [Window.step, Action.run_map]
      exact keeps_relaying _ v
  | relay c =>
      exact hkept rfl rfl fun _ => rfl

theorem replay (h : w.Knows dpis origins) (calls : List (Call Rat)) :
    ((Action.replay Window.step calls).run w).state.Knows (dpis ++ calls.filterMap Call.dpi?)
      (origins ++ calls.filterMap Call.origin?) := by
  induction calls generalizing w dpis origins with
  | nil =>
      simpa using h
  | cons c calls ih =>
      have hcons {α : Type} (f : Call Rat → Option α) :
          (c :: calls).filterMap f = (f c).toList ++ calls.filterMap f := by
        cases hc : f c <;> simp [hc]
      have hnext := ih (h.step c)
      rw [Action.run_replay_cons, hcons, hcons, ← List.append_assoc, ← List.append_assoc]
      exact hnext

end Knows

/-! ## What is told of a position -/

/-- A call that tells of the point `p`, and of no other; of none, if the line is cut. -/
structure Reports (w : Window Rat) (c : Call Rat) (p : Point Rat) : Prop where
  answered : ∃ reply, ((step c).run w).value = .ok reply
  only : ∀ e ∈ ((step c).run w).effects, e.At p
  told : w.relay.dispatcher.attached = true →
    ∃ e ∈ ((step c).run w).effects, e.position? = some p

end Window

/-- A message of the pointer, whose position is one of the client area.  Of buttons that are not
known nothing is told. -/
def Message.IsPointer (m : Message) : Prop :=
  MessageKind.ofNumber? m.number = some .mouseMove ∨
    ∃ b t, MessageKind.ofNumber? m.number = some (.button b t) ∧
      (Window.buttonOf? b m).isSome = true

/-- A message of the wheel, whose position is one of the screen.  Of an amount of zero nothing is
told. -/
def Message.IsWheel (m : Message) : Prop :=
  m.wheel?.isSome = true ∧ hiSigned m.wParam32 ≠ 0

theorem Delivers.told_at {lineHeight : Rat} {vertical : Bool} {amount : Int} {p : Point Rat}
    {told : List (Callback Rat)} (h : Delivers lineHeight vertical amount p told)
    (moves : amount ≠ 0) : ∃ c ∈ told, c.position? = some p := by
  by_cases hwhole : 120 ∣ amount
  · rcases h.whole hwhole with ⟨d, rfl⟩
    have hsome : amount.natAbs / 120 ≠ 0 := by omega
    exact ⟨_, List.mem_replicate.2 ⟨hsome, rfl⟩, rfl⟩
  · rcases h.part hwhole with ⟨d, t, rfl⟩
    exact ⟨_, List.mem_singleton_self _, rfl⟩

namespace Window

open Act

variable {w : Window Rat} {m : Message} {p : Point Rat}

theorem reports_pointer (h : m.IsPointer) : w.Reports (.message m) (w.clientPoint m) := by
  -- Both kinds of messages come down to one pointer event at the position.
  have hevent : ∃ e : PointerEvent Rat, e.primary? = some e ∧ e.position = w.clientPoint m ∧
      ((step (.message m)).run w).effects = ((Relay.pointer e).run w.relay).effects ∧
      ∃ reply, ((step (.message m)).run w).value = .ok reply := by
    rcases h with hkind | ⟨b, t, hkind, hbutton⟩
    · refine ⟨.motion (w.clientPoint m), rfl, rfl, ?_, ?_⟩
      · simp [step, handle, hkind, handleKind, handled, relaying]
      · simp [step, handle, hkind, handleKind, handled, relaying, Except.map]
    · rcases Option.isSome_iff_exists.1 hbutton with ⟨button, hbutton⟩
      refine ⟨if t.isPress then .press (w.clientPoint m) button
        else .release (w.clientPoint m) button, ?_, ?_, ?_, ?_⟩
      · cases t.isPress <;> rfl
      · cases t.isPress <;> rfl
      · simp [step, handle, hkind, handleKind, mouseButton, hbutton, relaying]
      · simp [step, handle, hkind, handleKind, mouseButton, hbutton, relaying, Except.map]
  rcases hevent with ⟨e, hprimary, hposition, heffects, hanswered⟩
  refine ⟨hanswered, ?_, fun line => ?_⟩
  · rw [heffects, ← hposition]
    exact Relay.at_pointer e hprimary w.relay
  · rw [heffects, ← hposition]
    exact Relay.told_pointer hprimary line

theorem at_wheelInputs (vertical : Bool) (amount : Int) (t : Time) :
    Emits (Effect.At p) (Action.each Relay.scroll (w.wheelInputs vertical amount p t)) := by
  have hplaced : ∀ input ∈ w.wheelInputs vertical amount p t, input.position = p := by
    intro input hinput
    unfold wheelInputs at hinput
    split at hinput
    · rw [List.eq_of_mem_replicate hinput]
      rfl
    · rw [List.mem_singleton.1 hinput]
      rfl
  generalize w.wheelInputs vertical amount p t = inputs at hplaced
  induction inputs with
  | nil =>
      exact .pure _
  | cons input inputs ih =>
      have hfirst : Emits (Effect.At p) (Relay.scroll input) := by
        rw [← hplaced input (List.mem_cons_self ..)]
        exact Relay.at_scroll input
      exact .bind hfirst fun _ => ih fun i hi => hplaced i (List.mem_cons_of_mem _ hi)

theorem reports_wheel (h : m.IsWheel) (placed : w.screenPoint m = .ok p) :
    w.Reports (.message m) p := by
  rcases h with ⟨hwheel, hmoves⟩
  rcases Option.isSome_iff_exists.1 hwheel with ⟨vertical, hwheel⟩
  refine ⟨?_, ?_, fun line => ?_⟩
  · rw [step_wheel hwheel]
    simp [mouseWheel, placed, Except.map]
  · have hinputs := at_wheelInputs (w := w) (p := p) vertical (hiSigned m.wParam32)
      (Time.ofMillis m.time.toNat) w.relay
    simpa [step_wheel hwheel, mouseWheel, placed, relaying] using hinputs
  · rcases run_wheel line hwheel placed with ⟨settled, told, r', hrun, -, hdelivers⟩
    rcases hdelivers.told_at hmoves with ⟨c, hc, hposition⟩
    rw [hrun]
    exact ⟨.callback c, List.mem_map_of_mem (List.mem_append_right _ hc), hposition⟩

theorem run_hitTest (placed : w.screenPoint m = .ok p) :
    ∃ hit, (step (.hitTest m clientHit)).run w = ⟨.ok (.hit hit), w,
      if w.relay.dispatcher.attached then [.callback (.hitTest p)] else []⟩ := by
  have hasked : ∃ answer, (relaying (Relay.dispatch (Dispatcher.hitTest p))).run w =
      ⟨answer, w, if w.relay.dispatcher.attached then [.callback (.hitTest p)] else []⟩ := by
    simp only [relaying, Relay.dispatch, Relay.arbitrate, Arbiter.dispatch, Dispatcher.hitTest,
      Action.run_within, Action.run_bind, Dispatcher.run_notify, Action.run_get, Action.run_pure,
      List.append_nil]
    exact ⟨_, rfl⟩
  rcases hasked with ⟨answer, hasked⟩
  simp only [step, hitTest, if_true, Action.run_map, Action.run_bind, Action.run_get, placed,
    hasked]
  cases answer with
  | client => exact ⟨_, congrArg (Outcome.mk _ w) (List.append_nil _)⟩
  | grab => exact ⟨_, congrArg (Outcome.mk _ w) (List.append_nil _)⟩

theorem reports_hitTest (placed : w.screenPoint m = .ok p) :
    w.Reports (.hitTest m clientHit) p := by
  rcases run_hitTest placed with ⟨hit, hrun⟩
  constructor
  case answered =>
    rw [hrun]
    exact ⟨_, rfl⟩
  case only =>
    rw [hrun]
    intro e he
    split at he
    · rw [List.mem_singleton.1 he]
      exact Effect.at_of_position rfl
    · cases he
  case told =>
    intro line
    rw [hrun, line]
    exact ⟨_, List.mem_singleton_self _, rfl⟩

end Window
end Win32

/-! ## The main result -/

open Win32 in
/-- Whatever a window has lived through, it goes by what it was told last of its resolution and its
place.  A message that tells a position of the client area and one that tells the same position on
the screen lead to the same point, and in neither do the upper bits of the parameters matter. -/
theorem coordinates_agree (handle : WindowHandle) (attributes : Attributes Rat)
    (listener : Listener Rat) (dpi : UInt16) (calls : List (Win32.Call Rat)) :
    let start := (Window.attach handle attributes listener dpi).state
    let w := ((Action.replay Window.step calls).run start).state
    w.scaleFactor = scaleAfter (dpi :: calls.filterMap Call.dpi?) ∧ 0 < w.scaleFactor ∧
      w.clientOrigin = (calls.filterMap Call.origin?).getLast?.getD (0, 0) ∧
      (∀ m m' : Message, m.SameLow m' →
        (Window.step (.message m)).run w = (Window.step (.message m')).run w ∧
          ∀ hit, (Window.step (.hitTest m hit)).run w = (Window.step (.hitTest m' hit)).run w) ∧
      ∀ x y x' y' : Int16, x'.toInt = w.clientOrigin.1 + x.toInt →
        y'.toInt = w.clientOrigin.2 + y.toInt →
        let p : Point Rat := ⟨x.toInt / w.scaleFactor, y.toInt / w.scaleFactor⟩
        ∀ m : Message,
          (m.IsPointer → m.lParam32 = packPosition x y → w.Reports (.message m) p) ∧
            (m.IsWheel → m.lParam32 = packPosition x' y' → w.Reports (.message m) p) ∧
            (m.lParam32 = packPosition x' y' → w.Reports (.hitTest m Window.clientHit) p) := by
  intro start w
  have hknows : w.Knows (dpi :: calls.filterMap Call.dpi?) (calls.filterMap Call.origin?) :=
    ((Window.Knows.unscaled handle attributes listener).setDpi dpi).replay calls
  have hpos : 0 < w.scaleFactor := by
    rw [hknows.scale]
    exact scaleAfter_pos _
  refine ⟨hknows.scale, hpos, hknows.origin, fun m m' hsame => ⟨?_, fun hit => ?_⟩, ?_⟩
  · rw [Window.step_message_sameLow hsame]
  · rw [Window.step_hitTest_sameLow hsame]
  intro x y x' y' hx hy p m
  have hscreen (hpack : m.lParam32 = packPosition x' y') : w.screenPoint m = .ok p := by
    have hleft : loSigned m.lParam32 = w.clientOrigin.1 + x.toInt := by
      rw [hpack, loSigned_packPosition, hx]
    have htop : hiSigned m.lParam32 = w.clientOrigin.2 + y.toInt := by
      rw [hpack, hiSigned_packPosition, hy]
    have hbounds := And.intro (And.intro x.le_toInt x.toInt_lt) (And.intro y.le_toInt y.toInt_lt)
    exact Window.screenPoint_eq hleft htop (by omega)
  refine ⟨fun hpointer hpack => ?_, fun hwheel hpack => ?_, fun hpack => ?_⟩
  · have hclient : w.clientPoint m = p := by
      rw [Window.clientPoint, hpack, loSigned_packPosition, hiSigned_packPosition]
      rfl
    rw [← hclient]
    exact Window.reports_pointer hpointer
  · exact Window.reports_wheel hwheel (hscreen hpack)
  · exact Window.reports_hitTest (hscreen hpack)

/-- A window on a screen to the left of the first one, at one and a half pixels a point.  The
resolution of zero that it is told in between does not matter. -/
theorem coordinates_agree_to_the_left :
    let start := (Win32.Window.attach (.detached ⟨1⟩) (Attributes.standard (K := Rat)) Listener.deaf
      144).state
    let calls : List (Win32.Call Rat) :=
      [.message ⟨0x02E0, 0, 0, 0⟩, .message (.mouse 0x0003 (-1280) 40)]
    let w := ((Action.replay Win32.Window.step calls).run start).state
    let p : Point Rat := ⟨20, 40 / 3⟩
    let lParam : Int64 := Win32.packLParam (-1250 : Int16).toUInt16 60
    w.clientOrigin = (-1280, 40) ∧ w.Reports (.message (.mouse 0x0200 30 20)) p ∧
      w.Reports (.message ⟨0x020A, 0xFFFFFFFF00780000, lParam, 7⟩) p ∧
      w.Reports (.hitTest ⟨0x0084, 0, lParam, 7⟩ Win32.Window.clientHit) p := by
  intro start calls w p lParam
  have hagree := coordinates_agree (.detached ⟨1⟩) (Attributes.standard (K := Rat)) Listener.deaf
    144 calls
  have horigin : w.clientOrigin = (-1280, 40) := by
    decide +kernel
  have hpoint : (⟨(30 : Int16).toInt / w.scaleFactor, (20 : Int16).toInt / w.scaleFactor⟩ :
      Point Rat) = p := by
    decide +kernel
  have hreports := hagree.2.2.2.2 30 20 (-1250) 60 (by rw [horigin]; decide)
    (by rw [horigin]; decide)
  rw [hpoint] at hreports
  exact ⟨horigin, (hreports _).1 (.inl rfl) (by decide),
    (hreports _).2.1 ⟨rfl, by decide⟩ (by decide), (hreports _).2.2 (by decide)⟩

end WindowRelay

import WindowRelay.Proofs.AppKit.Turns
import WindowRelay.Proofs.Exact
import WindowRelay.Proofs.Relay.Settling

/-!
# Lifted — which events settle a lifted scroll gesture

A gesture whose fingers are lifted waits for momentum.  Most events that come first settle it: those
of the pointer, and of the wheel when they have a delta, begin a gesture, or end a plain stream.
Some events are read and come to nothing.  They leave the gesture waiting.

- `AppKit.Window.settling?`: how an event without momentum settles a lifted gesture, if it does.
- `AppKit.Window.settles_handle`, `AppKit.Window.handle_idle`: the events that do and that do not.
-/

namespace WindowRelay
namespace AppKit
namespace Window

open Act

variable {K : Type} [Scalar K] {w : Window K} {e : Event K}

/-- How an event without momentum settles a lifted gesture, if it does. -/
def settling? (w : Window K) (e : Event K) : Option Ending :=
  match e.type with
  | .leftMouseDown | .rightMouseDown | .otherMouseDown
  | .leftMouseUp | .rightMouseUp | .otherMouseUp =>
      (e.buttonNumber.toNat?.bind MouseButton.ofIndex?).map fun _ => .release
  | .mouseMoved | .leftMouseDragged | .rightMouseDragged | .otherMouseDragged | .mouseExited =>
      some .release
  | .scrollWheel =>
      if e.isPhased && w.relay.attributes.scrollGestures then
        if e.phase.has .began || (e.phase.has .changed && !(w.scrollDelta e).isZero) then
          some .release
        else if e.phase.has .cancelled then some .cancel
        else none
      else if e.phase.has .ended || e.phase.has .cancelled then some .release
      else if (w.scrollDelta e).isZero then none
      else some .release

theorem run_scrollWheel (e : Event K) (w : Window K) :
    (scrollWheel e).run w =
      if e.isPhased && w.relay.attributes.scrollGestures then (scrollGesture e).run w
      else (scrollFlat e).run w :=
  calc (scrollWheel e).run w
      = (if e.isPhased && w.relay.attributes.scrollGestures then scrollGesture e
          else scrollFlat e).run w := rfl
    _ = _ := Action.run_ite _ _ _ w

theorem run_scrollFlat (e : Event K) (w : Window K) :
    (scrollFlat e).run w =
      if !e.momentum.isEmpty then ⟨(), w, []⟩
      else if e.phase.has .ended || e.phase.has .cancelled then
        (relaying (Relay.scroll (.stop (w.toContent e.location) e.time))).run w
      else if (w.scrollDelta e).isZero then ⟨(), w, []⟩
      else
        (relaying (Relay.scroll (.delta (w.toContent e.location) (w.scrollDelta e) e.time))).run
          w :=
  calc (scrollFlat e).run w
      = (if !e.momentum.isEmpty then pure ()
          else if e.phase.has .ended || e.phase.has .cancelled then
            relaying (Relay.scroll (.stop (w.toContent e.location) e.time))
          else if (w.scrollDelta e).isZero then pure ()
          else
            relaying (Relay.scroll (.delta (w.toContent e.location) (w.scrollDelta e)
              e.time))).run w := rfl
    _ = _ := by simp only [Action.run_ite, Action.run_pure]

/-! ## Events that settle -/

omit [Scalar K] in
theorem settles_relaying {α : Type} {how : Ending} {m : Act K (Relay K) α}
    (h : Settles how Relay.arbiter m w.relay) : Settles how arbiter (relaying m) w :=
  h

omit [Scalar K] in
theorem settles_doWhen {α : Type} {how : Ending} {m : Act K (Arbiter K) α}
    (h : Settles how Relay.arbiter (Relay.arbitrate m) w.relay) :
    Settles how arbiter (doWhen true m) w :=
  Settles.bind (P := fun _ => True) (settles_relaying h) fun _ => .pure ()

omit [Scalar K] in
theorem run_doWhen_false {α : Type} (m : Act K (Arbiter K) α) (w : Window K) :
    (doWhen false m).run w = ⟨(), w, []⟩ :=
  rfl

omit [Scalar K] in
/-- A lifted gesture is not lifted again. -/
theorem run_liftScroll_lifted (condition : Bool) (lifted : w.arbiter.stage? = some .lifted) :
    (doWhen condition Arbiter.liftScroll).run w = ⟨(), w, []⟩ := by
  have hother : w.relay.arbiter.stage? ≠ some .tracking := by
    have hstage : w.relay.arbiter.stage? = some .lifted := lifted
    simp [hstage]
  cases condition with
  | false => rfl
  | true =>
      simp [doWhen, relaying, Relay.arbitrate, Arbiter.run_liftScroll_other hother]

theorem has_of_isEmpty {m : Phase} (h : m.isEmpty = true) (b : PhaseBit) : m.has b = false := by
  rw [Mask.isEmpty_iff.1 h]
  exact Mask.has_empty b

/-- The part of a phased event that is about momentum. -/
def scrollMomentum (w : Window K) (e : Event K) : Act K (Window K) Unit := do
  doWhen (e.momentum.has .began) Arbiter.startMomentum
  doWhen ((e.momentum.has .began || e.momentum.has .changed) && !(w.scrollDelta e).isZero)
    (Arbiter.scrollMotion e.hasPreciseDeltas (w.scrollDelta e) e.time)
  doWhen (e.momentum.has .ended || e.momentum.has .cancelled) Arbiter.endScroll

theorem run_scrollMomentum_none (still : e.momentum.isEmpty = true) (w w' : Window K) :
    (scrollMomentum w e).run w' = ⟨(), w', []⟩ := by
  simp [scrollMomentum, has_of_isEmpty still, run_doWhen_false]

theorem plays_scrollMomentum (w : Window K) (e : Event K) : PlaysOn (scrollMomentum w e) :=
  (plays_doWhen _ Arbiter.plays_startMomentum).bind fun _ =>
    (plays_doWhen _ (Arbiter.plays_scrollMotion _ _ _)).bind fun _ =>
      plays_doWhen _ (Arbiter.plays_finishScroll .release)

theorem run_scrollGesture (e : Event K) (w : Window K) :
    (scrollGesture e).run w =
      (do
        doWhen (e.phase.has .began) (Arbiter.beginScroll (w.toContent e.location))
        doWhen ((e.phase.has .began || e.phase.has .changed) && !(w.scrollDelta e).isZero)
          (Arbiter.scrollMotion e.hasPreciseDeltas (w.scrollDelta e) e.time)
        doWhen (e.phase.has .ended) Arbiter.liftScroll
        doWhen (e.phase.has .cancelled) (Arbiter.cancel .scroll)
        scrollMomentum w e : Act K (Window K) Unit).run w := by
  simp only [scrollGesture, scrollMomentum, Action.run_bind, Action.run_get, List.nil_append]

/-- The first of the steps of a phased event that settles the gesture decides how it ends. -/
theorem settles_scrollGesture {how : Ending} (lifted : w.arbiter.stage? = some .lifted)
    (h : (if e.phase.has .began || (e.phase.has .changed && !(w.scrollDelta e).isZero) then
          some Ending.release
        else if e.phase.has .cancelled then some .cancel
        else none) = some how) : Settles how arbiter (scrollGesture e) w := by
  -- What follows the step that settles has nothing lifted to settle: it need only play.
  have hcancel : PlaysOn (do
      doWhen (e.phase.has .cancelled) (Arbiter.cancel .scroll)
      scrollMomentum w e) :=
    (plays_doWhen _ (Arbiter.plays_cancel .scroll)).bind fun _ => plays_scrollMomentum w e
  have hlift : PlaysOn (do
      doWhen (e.phase.has .ended) Arbiter.liftScroll
      doWhen (e.phase.has .cancelled) (Arbiter.cancel .scroll)
      scrollMomentum w e) :=
    (plays_doWhen _ Arbiter.plays_liftScroll).bind fun _ => hcancel
  have hmotion : PlaysOn (do
      doWhen ((e.phase.has .began || e.phase.has .changed) && !(w.scrollDelta e).isZero)
        (Arbiter.scrollMotion e.hasPreciseDeltas (w.scrollDelta e) e.time)
      doWhen (e.phase.has .ended) Arbiter.liftScroll
      doWhen (e.phase.has .cancelled) (Arbiter.cancel .scroll)
      scrollMomentum w e) :=
    (plays_doWhen _ (Arbiter.plays_scrollMotion _ _ _)).bind fun _ => hlift
  unfold Settles
  rw [run_scrollGesture]
  cases hbegan : e.phase.has .began with
  | true =>
      have hhow : how = .release := by simpa [hbegan] using h.symm
      subst hhow
      rw [hbegan] at hmotion
      exact Settles.bind (settles_doWhen (Relay.settles_beginScroll _ lifted)) fun _ => hmotion
  | false =>
      refine Settles.after (run_doWhen_false _ w) ?_
      cases hmoved : e.phase.has .changed && !(w.scrollDelta e).isZero with
      | true =>
          have hhow : how = .release := by simpa [hbegan, hmoved] using h.symm
          subst hhow
          simp only [Bool.false_or, hmoved]
          exact Settles.bind (settles_doWhen (Relay.settles_scrollMotion _ _ _ lifted))
            fun _ => hlift
      | false =>
          simp only [hbegan, Bool.false_or, hmoved] at h ⊢
          refine Settles.after (run_doWhen_false _ w) (.after (run_liftScroll_lifted _ lifted) ?_)
          cases hcancelled : e.phase.has .cancelled with
          | true =>
              have hhow : how = .cancel := by simpa [hcancelled] using h.symm
              subst hhow
              exact Settles.bind (settles_doWhen (Relay.settles_cancelScroll w.relay))
                fun _ => plays_scrollMomentum w e
          | false =>
              simp [hcancelled] at h

theorem settles_scrollFlat {how : Ending} (lifted : w.arbiter.stage? = some .lifted)
    (still : e.momentum.isEmpty = true)
    (h : (if e.phase.has .ended || e.phase.has .cancelled then some Ending.release
        else if (w.scrollDelta e).isZero then none
        else some .release) = some how) : Settles how arbiter (scrollFlat e) w := by
  have hhow : how = .release := by
    split at h
    · exact (Option.some.inj h).symm
    · split at h
      · cases h
      · exact (Option.some.inj h).symm
  subst hhow
  refine Settles.after (Action.run_get w) ?_
  simp only [still, Bool.not_true, Bool.false_eq_true, if_false]
  split
  · exact settles_relaying (Relay.settles_scroll _ lifted)
  · rename_i hends
    simp only [hends, Bool.false_eq_true, if_false] at h
    split
    · rename_i hzero
      simp [hzero] at h
    · exact settles_relaying (Relay.settles_scroll _ lifted)

theorem settles_mouseButton {how : Ending} (pressed : Bool)
    (lifted : w.arbiter.stage? = some .lifted)
    (h : ((e.buttonNumber.toNat?.bind MouseButton.ofIndex?).map fun _ => Ending.release) =
      some how) : Settles how arbiter (mouseButton e pressed) w := by
  refine Settles.after (Action.run_get w) ?_
  cases hbutton : e.buttonNumber.toNat?.bind MouseButton.ofIndex? with
  | none =>
      simp [hbutton] at h
  | some b =>
      have hhow : how = .release := by simpa [hbutton] using h.symm
      subst hhow
      exact settles_relaying (Relay.settles_pointer _ lifted)

theorem settles_handle {how : Ending} (lifted : w.arbiter.stage? = some .lifted)
    (still : e.momentum.isEmpty = true) (h : settling? w e = some how) :
    Settles how arbiter (handle e) w := by
  unfold settling? at h
  unfold handle
  cases htype : e.type with
  | leftMouseDown | rightMouseDown | otherMouseDown =>
      exact settles_mouseButton true lifted (by simpa only [htype] using h)
  | leftMouseUp | rightMouseUp | otherMouseUp =>
      exact settles_mouseButton false lifted (by simpa only [htype] using h)
  | mouseMoved | leftMouseDragged | rightMouseDragged | otherMouseDragged =>
      have hhow : how = .release := by simpa only [htype, Option.some.injEq] using h.symm
      subst hhow
      exact .after (Action.run_get w) (settles_relaying (Relay.settles_pointer _ lifted))
  | mouseExited =>
      have hhow : how = .release := by simpa only [htype, Option.some.injEq] using h.symm
      subst hhow
      exact settles_relaying (Relay.settles_pointerLeft lifted)
  | scrollWheel =>
      simp only [htype] at h
      refine Settles.after (Action.run_get w) ?_
      split at h
      · rename_i hphased
        rw [if_pos hphased]
        exact settles_scrollGesture lifted h
      · rename_i hphased
        rw [if_neg hphased]
        exact settles_scrollFlat lifted still h

/-! ## Events that do not -/

theorem run_scrollGesture_idle (lifted : w.arbiter.stage? = some .lifted)
    (still : e.momentum.isEmpty = true)
    (h : (if e.phase.has .began || (e.phase.has .changed && !(w.scrollDelta e).isZero) then
          some Ending.release
        else if e.phase.has .cancelled then some .cancel
        else none) = none) : (scrollGesture e).run w = ⟨(), w, []⟩ := by
  split at h
  · cases h
  · rename_i hmoved
    split at h
    · cases h
    · rename_i hcancelled
      simp only [Bool.or_eq_true, not_or, Bool.not_eq_true] at hmoved hcancelled
      simp only [run_scrollGesture, Action.run_bind, hmoved, hcancelled, Bool.false_or,
        run_doWhen_false, run_liftScroll_lifted _ lifted, run_scrollMomentum_none still,
        List.append_nil]

theorem run_scrollFlat_idle (still : e.momentum.isEmpty = true)
    (h : (if e.phase.has .ended || e.phase.has .cancelled then some Ending.release
        else if (w.scrollDelta e).isZero then none
        else some .release) = none) : (scrollFlat e).run w = ⟨(), w, []⟩ := by
  split at h
  · cases h
  · rename_i hends
    split at h
    · rename_i hzero
      simp [scrollFlat, still, hends, hzero]
    · cases h

/-- An event that does not settle a lifted gesture does nothing at all, but for a complaint about a
button that nobody knows. -/
theorem handle_idle (lifted : w.arbiter.stage? = some .lifted)
    (still : e.momentum.isEmpty = true) (h : settling? w e = none) :
    ((handle e).run w).state = w ∧ Effect.callbacks ((handle e).run w).effects = [] := by
  unfold settling? at h
  unfold handle
  cases htype : e.type with
  | leftMouseDown | rightMouseDown | otherMouseDown | leftMouseUp | rightMouseUp | otherMouseUp =>
      simp only [htype, Option.map_eq_none_iff] at h
      simp only [mouseButton, Action.run_bind, Action.run_get, h]
      exact ⟨rfl, rfl⟩
  | mouseMoved | leftMouseDragged | rightMouseDragged | otherMouseDragged | mouseExited =>
      simp [htype] at h
  | scrollWheel =>
      simp only [htype] at h
      have hrun : (scrollWheel e).run w = ⟨(), w, []⟩ := by
        rw [run_scrollWheel]
        split at h
        · rename_i hphased
          rw [if_pos hphased]
          exact run_scrollGesture_idle lifted still h
        · rename_i hphased
          rw [if_neg hphased]
          exact run_scrollFlat_idle still h
      rw [hrun]
      exact ⟨rfl, rfl⟩

/-! ## Lifted gestures in a life -/

/-- An event that is not momentum and finds a gesture lifted either ends it for good or changes
nothing, and `settling?` says which. -/
theorem lifted_gesture_is_settled_or_kept (native : WindowHandle) (attributes : Attributes K)
    (listener : Listener K) (contentSize : Size K) (turns : List (Turn K)) (e : Event K)
    {s : ScrollSession}
    (isOpen : (live native attributes listener contentSize turns).state.arbiter.scroll.session =
      some s)
    (lifted : s.stage = .lifted) (still : e.momentum.isEmpty = true) :
    let w := (live native attributes listener contentSize turns).state
    let out := (handle e).run w
    scrollBeats s.capability.session (Effect.callbacks out.effects) =
        ((settling? w e).map ScrollBeat.last).getD [] ∧
      (out.state.arbiter.owner .scroll = .transient s.token ↔ settling? w e = none) ∧
      (settling? w e = none → out.state = w ∧ Effect.callbacks out.effects = []) := by
  intro w out
  have hstage : w.arbiter.stage? = some .lifted := by
    simp [Arbiter.stage?, w, isOpen, lifted]
  cases hsettling : settling? w e with
  | none =>
      rcases handle_idle hstage still hsettling with ⟨hstate, hcalls⟩
      have howner : out.state.arbiter.owner .scroll = .transient s.token := by
        simp only [out, hstate, Arbiter.owner, w, isOpen]
      refine ⟨?_, ⟨fun _ => rfl, fun _ => howner⟩, fun _ => ⟨hstate, hcalls⟩⟩
      rw [hcalls]
      rfl
  | some how =>
      rcases settles_handle hstage still hsettling with ⟨fs, heffects, hcourse⟩
      have hknown := known_live native attributes listener contentSize turns
      rcases hknown.settled isOpen hcourse with ⟨hsilent, howner⟩
      refine ⟨?_, ⟨fun h => absurd h howner, fun h => by cases h⟩, fun h => by cases h⟩
      -- The gesture hears its end first, and nothing of what the event does after that.
      have hlast := Arbiter.scrollBeats_finishScroll how isOpen
      rw [heffects, Effect.callbacks_append, scrollBeats, callsOf_append]
      exact congrArg₂ (· ++ ·) hlast hsilent |>.trans (List.append_nil _)

/-- A wheel event of one phase, without motion. -/
def phased (bit : PhaseBit) : Event K :=
  { Event.scrollWheel Point.zero Point.zero with phase := Mask.single bit }

/-- A window whose scroll gesture, with the token 1, began and was lifted. -/
def afterLift : Window Rat :=
  (live (.detached ⟨1⟩) Attributes.standard Listener.deaf ⟨100, 100⟩
    [.call (.event (phased .began)), .call (.event (phased .ended))]).state

/-- A cancelled phase is told to the session of a lifted gesture as a cancel. -/
theorem lifted_gesture_is_cancelled :
    let out := (handle (phased .cancelled)).run afterLift
    afterLift.arbiter.stage? = some .lifted ∧
      scrollBeats 0 (Effect.callbacks out.effects) = [.cancel] ∧
      out.state.arbiter.owner .scroll ≠ .transient ⟨1⟩ := by
  have hopen : afterLift.arbiter.scroll.session = some ⟨⟨1⟩, ⟨⟨1⟩, 0⟩, .lifted, none⟩ := by
    decide +kernel
  have hsettling : settling? afterLift (phased .cancelled) = some .cancel := by
    decide +kernel
  have h := lifted_gesture_is_settled_or_kept (.detached ⟨1⟩) (Attributes.standard (K := Rat))
    Listener.deaf ⟨100, 100⟩ [.call (.event (phased .began)), .call (.event (phased .ended))]
    (phased .cancelled) hopen rfl rfl
  refine ⟨by decide +kernel, ?_, fun howner => ?_⟩
  · refine h.1.trans ?_
    exact congrArg (fun how => (how.map ScrollBeat.last).getD []) hsettling
  · exact nomatch hsettling.symm.trans (h.2.1.1 howner)

/-- A phase that only announces a gesture leaves a lifted one waiting. -/
theorem lifted_gesture_outlasts_may_begin :
    let out := (handle (phased .mayBegin)).run afterLift
    (phased .mayBegin : Event Rat).momentum.isEmpty = true ∧
      afterLift.arbiter.stage? = some .lifted ∧
      afterLift.arbiter.owner .scroll = .transient ⟨1⟩ ∧
      Effect.callbacks out.effects = [] ∧
      out.state.arbiter.owner .scroll = .transient ⟨1⟩ := by
  have hlifted : afterLift.arbiter.stage? = some .lifted := by
    decide +kernel
  have howner : afterLift.arbiter.owner .scroll = .transient ⟨1⟩ := by
    decide +kernel
  have hsettling : settling? afterLift (phased .mayBegin) = none := by
    decide +kernel
  rcases handle_idle hlifted rfl hsettling with ⟨hstate, hcalls⟩
  refine ⟨rfl, hlifted, howner, hcalls, ?_⟩
  rw [hstate]
  exact howner

end Window
end AppKit
end WindowRelay

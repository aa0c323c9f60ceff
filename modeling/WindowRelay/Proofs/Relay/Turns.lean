import WindowRelay.Proofs.Gesture.Coherence
import WindowRelay.Proofs.Text.Quiet
import WindowRelay.Relay

/-!
# Turns — the life of a window

A listener is no fixed thing: between two calls of the toolkit it may change its mind about closing
and hit testing, and put another text in its editor.  So the life of a window is a list of turns, of
which each is a call or a change of the listener.

- `Relay.Turn`, `Relay.turn`, `Relay.live`: the turns, one by one and all.
- `Relay.plays_turn`: every turn is a play of the arbiter.
- `Relay.Turn.fits`: what the effects of a turn can be.
-/

namespace WindowRelay
namespace Relay

open Act

variable {K : Type} {P : Effect K → Prop}

/-! ## Turns -/

inductive Turn (K : Type)
  | call (c : Call K)
  | adapt (l : Listener K)

def hear (l : Listener K) (r : Relay K) : Relay K :=
  { r with arbiter := r.arbiter.hear l }

def turn [Scalar K] : Turn K → Act K (Relay K) Unit
  | .call c => do
      let _ ← step c
      pure ()
  | .adapt l => modify (hear l)

/-- All turns, from the attaching of the listener on. -/
def live [Scalar K] (handle : WindowHandle) (attributes : Attributes K) (listener : Listener K)
    (turns : List (Turn K)) : Outcome (Effect K) (Relay K) (List Unit) :=
  (Action.replay turn turns).run (attach handle attributes listener)

/-- A property of the effects that a turn can have: only a close cuts the line, and only a pointer
event is reported. -/
def Turn.fits : Turn K → Effect K → Prop
  | .call (.pointer _), e => e.cutsLine = false
  | .call .close, e => e.reportsPointer = false
  | _, e => e.isBackground = true

/-! ## Parts of a call -/

abbrev PlaysBackground {α : Type} (m : Act K (Relay K) α) : Prop :=
  Plays (fun e => e.isBackground = true) Relay.arbiter m

theorem plays_arbitrate {α : Type} {m : Act K (Arbiter K) α} (h : Plays P id m) :
    Plays P Relay.arbiter (arbitrate m) := by
  intro r
  exact h r.arbiter

theorem plays_notify {c : Callback K} (plain : c.isPlain = true)
    (fits : (Effect.callback c).isBackground = true) :
    PlaysBackground (dispatch (Dispatcher.notify c)) :=
  plays_arbitrate (Arbiter.plays_notify plain fits)

theorem plays_warnIf {w : Warning} (condition : Bool) (harmless : w.isLeak = false) :
    PlaysBackground (warnIf condition w : Act K (Relay K) Unit) := by
  intro r
  cases condition with
  | false =>
      exact .nil r.arbiter
  | true =>
      exact .single (.remark w harmless) (by simp [Effect.isBackground])

theorem plays_forgetButtons : PlaysBackground (forgetButtons : Act K (Relay K) Unit) :=
  .modify fun _ => rfl

/-- An operation on the editor, of which the arbiter sees no more than a changed listener. -/
theorem plays_edit {α : Type} {m : Act K (Editor K) α}
    (hm : ∀ e, ∀ x ∈ (m.run e).effects, x.isAside = true) : PlaysBackground (edit m) := by
  refine plays_arbitrate fun a => ?_
  simp only [Arbiter.dispatch, Action.run_within]
  cases heditor : (if a.dispatcher.attached then a.dispatcher.listener.editor else none) with
  | none =>
      rw [Dispatcher.run_edit_none heditor]
      exact .nil a
  | some e =>
      -- There is an editor to be had only while the line is not cut.
      have hattached : a.dispatcher.attached = true := by
        by_contra hcut
        simp [hcut] at heditor
      rw [Dispatcher.run_edit_some heditor]
      refine .single (.edit _ _ hattached (hm e)) ?_
      intro x hx
      exact Effect.isBackground_of_isAside (hm e x hx)

/-! ## Calls -/

theorem plays_route (e : PointerEvent K) :
    Plays (fun e => e.cutsLine = false) Relay.arbiter (route e) := by
  refine .bind (.modify fun r => ?_) fun _ => .bind ?_ fun attributes => ?_
  · unfold hold
    split <;> rfl
  · exact .bind (.modify fun _ => rfl) fun _ => .pure _
  · exact plays_arbitrate (Arbiter.plays_pointer e attributes.dragGestures)

theorem plays_pointer (e : PointerEvent K) :
    Plays (fun e => e.cutsLine = false) Relay.arbiter (pointer e) := by
  -- Settling and complaining are done in the background, for a pointer event of any kind.
  have hsettle : Plays (fun e => e.cutsLine = false) Relay.arbiter
      (arbitrate Arbiter.settleLifted : Act K (Relay K) Unit) :=
    (plays_arbitrate Arbiter.plays_settleLifted).mono fun _ => Effect.cutsLine_of_isBackground
  refine .bind hsettle fun _ => .get_bind fun r => ?_
  have hwarn : Plays (fun e => e.cutsLine = false) Relay.arbiter
      (warnIf (r.losesDoubleClick e) .lostDoubleClick : Act K (Relay K) Unit) :=
    (plays_warnIf _ rfl).mono fun _ => Effect.cutsLine_of_isBackground
  refine Plays.bind hwarn (fun _ => ?_) r
  cases e.primary? with
  | none =>
      exact .pure ()
  | some e =>
      exact plays_route e

theorem plays_scroll [Scalar K] (input : ScrollInput K) : PlaysBackground (scroll input) := by
  refine .bind (plays_arbitrate Arbiter.plays_settleLifted) fun _ => .bind ?_ fun event => ?_
  · intro r
    exact .nil r.arbiter
  · cases event with
    | none =>
        exact .pure ()
    | some e =>
        simp only [Dispatcher.scroll]
        cases e.kind with
        | discrete => exact plays_notify rfl rfl
        | precise => exact plays_notify rfl rfl
        | momentumStop => exact plays_notify rfl rfl

theorem plays_focus (gained : Bool) : PlaysBackground (focus gained : Act K (Relay K) Unit) := by
  cases gained with
  | true =>
      exact plays_notify rfl rfl
  | false =>
      exact .bind (plays_arbitrate Arbiter.plays_cancelAll) fun _ =>
        .bind plays_forgetButtons fun _ => plays_notify rfl rfl

theorem plays_close :
    Plays (fun e => e.reportsPointer = false) Relay.arbiter (close : Act K (Relay K) Unit) := by
  intro r
  have hcancel : Arbiter.Play (fun e => e.reportsPointer = false) r.arbiter _ _ :=
    (Arbiter.plays_cancelAll r.arbiter).mono fun _ => Effect.reportsPointer_of_isBackground
  -- All gestures are cancelled before the line is cut, which is what makes the cut a move.
  have hvacant := Arbiter.run_cancelAll_vacant r.arbiter
  have hcut := Arbiter.play_closed hvacant.1 hvacant.2
  exact hcancel.trans hcut

/-- A question to the listener, answered from the state of the line. -/
theorem plays_ask {α : Type} {c : Callback K} (plain : c.isPlain = true)
    (fits : (Effect.callback c).isBackground = true) (answer : Dispatcher K → α) :
    PlaysBackground (dispatch do
      Dispatcher.notify c
      let d ← get
      pure (answer d)) := by
  intro r
  have h := plays_notify plain fits r
  simpa [dispatch, arbitrate, Arbiter.dispatch] using h

theorem plays_step [Scalar K] (c : Call K) :
    Plays (Turn.call c).fits Relay.arbiter (step c) := by
  cases c with
  | pointer e =>
      exact .bind (plays_pointer e) fun _ => .pure _
  | pointerLeft =>
      exact .bind (.bind (plays_arbitrate Arbiter.plays_settleLifted) fun _ => plays_notify rfl rfl)
        fun _ => .pure _
  | scroll input =>
      exact .bind (plays_scroll input) fun _ => .pure _
  | beginScrollGesture p =>
      exact .bind (plays_arbitrate (Arbiter.plays_beginScroll p)) fun _ => .pure _
  | scrollGestureMotion precise d t =>
      exact .bind (plays_arbitrate (Arbiter.plays_scrollMotion precise d t)) fun _ => .pure _
  | liftScrollGesture =>
      exact .bind (plays_arbitrate Arbiter.plays_liftScroll) fun _ => .pure _
  | startMomentum =>
      exact .bind (plays_arbitrate Arbiter.plays_startMomentum) fun _ => .pure _
  | endScrollGesture =>
      exact .bind (plays_arbitrate (Arbiter.plays_finishScroll .release)) fun _ => .pure _
  | cancelScrollGesture =>
      exact .bind (plays_arbitrate (Arbiter.plays_cancel .scroll)) fun _ => .pure _
  | flushGestures =>
      exact .bind (plays_arbitrate Arbiter.plays_settleLifted) fun _ => .pure _
  | captureLost =>
      exact .bind (.bind plays_forgetButtons fun _ =>
        .bind (plays_arbitrate (Arbiter.plays_cancel .drag)) fun _ => .pure _) fun _ => .pure _
  | hitTest p =>
      exact .bind (plays_ask rfl rfl _) fun _ => .pure _
  | focus gained =>
      exact .bind (plays_focus gained) fun _ => .pure _
  | closeRequested =>
      exact .bind (plays_ask rfl rfl _) fun _ => .pure _
  | close =>
      exact .bind plays_close fun _ => .pure _
  | resized =>
      exact .bind (plays_notify rfl rfl) fun _ => .pure _
  | scaleFactorChanged =>
      exact .bind (plays_notify rfl rfl) fun _ => .pure _
  | updateReady =>
      exact .bind (plays_notify rfl rfl) fun _ => .pure _
  | hasComposingContext =>
      refine .bind (plays_arbitrate fun a => ?_) fun _ => .pure _
      exact .nil a
  | text c =>
      exact .bind (plays_edit (InputMethod.step_asides c)) fun _ => .pure _

/-! ## Turns and lives -/

theorem plays_turn [Scalar K] (t : Turn K) : Plays t.fits Relay.arbiter (turn t) := by
  cases t with
  | call c =>
      exact .bind (plays_step c) fun _ => .pure _
  | adapt l =>
      intro r
      have hmove := Arbiter.Move.adapt (a := r.arbiter) l
      exact .single hmove fun e he => by cases he

theorem plays_replay [Scalar K] (turns : List (Turn K)) :
    Plays (fun _ => True) Relay.arbiter (Action.replay turn turns) := by
  induction turns with
  | nil =>
      exact .pure []
  | cons t turns ih =>
      exact .bind ((plays_turn t).mono fun _ _ => trivial) fun _ => .bind ih fun _ => .pure _

/-- The arbiter that a window starts with. -/
abbrev fresh (handle : WindowHandle) (listener : Listener K) : Arbiter K :=
  Arbiter.ofDispatcher (Dispatcher.attach handle.id listener)

theorem play_live [Scalar K] (handle : WindowHandle) (attributes : Attributes K)
    (listener : Listener K) (turns : List (Turn K)) :
    Arbiter.Play (fun _ => True) (fresh handle listener)
      (live handle attributes listener turns).effects
      (live handle attributes listener turns).state.arbiter :=
  plays_replay turns (attach handle attributes listener)

end Relay
end WindowRelay

import WindowRelay.AppKit.TextClient
import WindowRelay.Proofs.Gesture.Naming
import WindowRelay.Proofs.Relay.Turns

/-!
# Turns of an AppKit window

Every event, delegate call and request of the toolkit ends in operations of the relay, so the life
of a native window is a play of its arbiter, as that of a relay is.

- `AppKit.Window.Turn`, `AppKit.Window.turn`, `AppKit.Window.live`: the turns, one by one and all.
- `AppKit.Window.plays_turn`: every turn is a play of the arbiter.
- `AppKit.Window.known_live`: the callbacks of a life tell of the arbiter at its end.
-/

namespace WindowRelay
namespace AppKit
namespace Window

open Act

variable {K : Type} {α : Type}

/-! ## Turns -/

inductive Turn (K : Type)
  | call (c : Call K)
  | adapt (l : Listener K)

def hear (l : Listener K) (w : Window K) : Window K :=
  { w with relay := w.relay.hear l }

def turn [Scalar K] : Turn K → Act K (Window K) Unit
  | .call c => do
      let _ ← step c
      pure ()
  | .adapt l => modify (hear l)

/-- All turns, from the attaching of the listener on. -/
def live [Scalar K] (handle : WindowHandle) (attributes : Attributes K) (listener : Listener K)
    (contentSize : Size K) (turns : List (Turn K)) :
    Outcome (Effect K) (Window K) (List Unit) :=
  (Action.replay turn turns).run (attach handle attributes listener contentSize)

def arbiter (w : Window K) : Arbiter K :=
  w.relay.arbiter

/-! ## Parts of a call -/

abbrev PlaysOn (m : Act K (Window K) α) : Prop :=
  Plays (fun _ => True) arbiter m

theorem plays_relaying {P : Effect K → Prop} {m : Act K (Relay K) α}
    (h : Plays P Relay.arbiter m) : PlaysOn (relaying m) := by
  intro w
  exact (h w.relay).mono fun _ _ => trivial

theorem plays_relay [Scalar K] (c : Relay.Call K) : PlaysOn (relaying (Relay.step c)) :=
  plays_relaying (Relay.plays_step c)

theorem plays_arbitrate {m : Act K (Arbiter K) α} (h : Arbiter.PlaysBackground m) :
    PlaysOn (relaying (Relay.arbitrate m)) :=
  plays_relaying (Relay.plays_arbitrate h)

theorem plays_notify {c : Callback K} (plain : c.isPlain = true)
    (fits : (Effect.callback c).isBackground = true) :
    PlaysOn (relaying (Relay.dispatch (Dispatcher.notify c))) :=
  plays_relaying (Relay.plays_notify plain fits)

/-- A question about the text, which is quiet as seen by the arbiter. -/
theorem plays_query {missing : α} {m : Editing K α} (h : Editing.Quiet m) :
    PlaysOn (relaying (Relay.query missing m)) := by
  refine plays_relaying (Plays.bind (Relay.plays_edit h) fun answer => ?_)
  cases answer with
  | none => exact .pure _
  | some answer => exact .pure _

theorem plays_request {name : String} {missing : α} {m : Editing K α} (h : Editing.Quiet m) :
    PlaysOn (relaying (Relay.request name missing m)) := by
  refine plays_relaying (Plays.bind (Relay.plays_edit h) fun answer => ?_)
  cases answer with
  | none => exact (Relay.plays_warnIf true rfl).bind fun _ => .pure _
  | some answer => exact .pure _

/-- The answer to a request is wrapped up after it. -/
theorem plays_answer {β : Type} {m : Act K (Window K) α} (h : PlaysOn m) (f : α → β) :
    PlaysOn (f <$> m) := by
  rw [map_eq_pure_bind]
  exact h.bind fun _ => .pure _

/-! ## Events -/

section Events

variable [Scalar K]

omit [Scalar K] in
theorem plays_doWhen (condition : Bool) {m : Act K (Arbiter K) α}
    (h : Arbiter.PlaysBackground m) : PlaysOn (doWhen condition m) := by
  unfold doWhen
  split
  · exact (plays_arbitrate h).bind fun _ => .pure ()
  · exact .pure ()

theorem plays_mouseButton (e : Event K) (pressed : Bool) : PlaysOn (mouseButton e pressed) := by
  refine .get_bind fun w => ?_
  cases e.buttonNumber.toNat?.bind MouseButton.ofIndex? with
  | none =>
      have hwarn : Plays (fun _ => True) (fun a => a)
          (Act.warn .unknownMouseButton : Act K (Arbiter K) Unit) := by
        intro a
        exact .single (.remark .unknownMouseButton rfl) fun _ _ => trivial
      exact hwarn w.arbiter
  | some b =>
      exact plays_relaying (Relay.plays_pointer _) w

theorem plays_scrollFlat (e : Event K) : PlaysOn (scrollFlat e) := by
  refine .get_bind fun w => ?_
  dsimp only
  split
  · exact .nil w.arbiter
  · split
    · exact plays_relaying (Relay.plays_scroll _) w
    · split
      · exact .nil w.arbiter
      · exact plays_relaying (Relay.plays_scroll _) w

theorem plays_scrollGesture (e : Event K) : PlaysOn (scrollGesture e) :=
  .get_bind fun w =>
    Plays.bind (plays_doWhen _ (Arbiter.plays_beginScroll _)) (fun _ =>
      (plays_doWhen _ (Arbiter.plays_scrollMotion _ _ _)).bind fun _ =>
        (plays_doWhen _ Arbiter.plays_liftScroll).bind fun _ =>
          (plays_doWhen _ (Arbiter.plays_cancel .scroll)).bind fun _ =>
            (plays_doWhen _ Arbiter.plays_startMomentum).bind fun _ =>
              (plays_doWhen _ (Arbiter.plays_scrollMotion _ _ _)).bind fun _ =>
                plays_doWhen _ (Arbiter.plays_finishScroll .release)) w

theorem plays_handle (e : Event K) : PlaysOn (handle e) := by
  unfold handle
  cases e.type with
  | leftMouseDown | rightMouseDown | otherMouseDown => exact plays_mouseButton e true
  | leftMouseUp | rightMouseUp | otherMouseUp => exact plays_mouseButton e false
  | mouseMoved | leftMouseDragged | rightMouseDragged | otherMouseDragged =>
      exact .get_bind fun w => plays_relaying (Relay.plays_pointer _) w
  | mouseExited =>
      exact plays_relaying (.bind (Relay.plays_arbitrate Arbiter.plays_settleLifted) fun _ =>
        Relay.plays_notify rfl rfl)
  | scrollWheel =>
      refine .get_bind fun w => ?_
      split
      · exact plays_scrollGesture e w
      · exact plays_scrollFlat e w

/-! ## Calls -/

theorem plays_step (c : Call K) : PlaysOn (step c) := by
  cases c with
  | event e =>
      exact (plays_handle e).bind fun _ => .pure _
  | setContentHeight height =>
      exact Plays.bind (.modify fun _ => rfl) fun _ => .pure _
  | shouldClose =>
      exact Plays.bind (plays_relaying (Relay.plays_ask rfl rfl _)) fun _ => .pure _
  | willClose =>
      exact Plays.bind (plays_relaying Relay.plays_close) fun _ => .pure _
  | didResize size =>
      have hheight : PlaysOn (setContentHeight size.height) := .modify fun _ => rfl
      exact (hheight.bind fun _ => plays_notify rfl rfl).bind fun _ => .pure _
  | didChangeBacking =>
      exact Plays.bind (plays_notify rfl rfl) fun _ => .pure _
  | didBecomeKey =>
      exact (plays_relaying (Relay.plays_focus true)).bind fun _ => .pure _
  | didResignKey =>
      exact (plays_relaying (Relay.plays_focus false)).bind fun _ => .pure _
  | updateReady =>
      exact Plays.bind (plays_notify rfl rfl) fun _ => .pure _
  | hitTest location =>
      exact Plays.bind (.get_bind fun w => plays_relaying (Relay.plays_ask rfl rfl _) w)
        fun _ => .pure _
  | flushGestures =>
      exact Plays.bind (plays_arbitrate Arbiter.plays_settleLifted) fun _ => .pure _
  | hasTextContext =>
      exact Plays.bind (plays_relay .hasComposingContext) fun _ => .pure _
  | hasMarkedText =>
      exact plays_answer (plays_query (InputMethod.reading_composingRange.quiet.map _)) _
  | insertText text replacement =>
      exact plays_answer (plays_request ((InputMethod.quiet_insertText text _).map _)) _
  | setMarkedText text selection replacement =>
      exact plays_answer (plays_request (InputMethod.quiet_setComposingText text _ _)) _
  | unmarkText =>
      exact plays_answer (plays_request (.setComposition none)) _
  | selectedRange =>
      exact plays_answer (plays_query (InputMethod.reading_selectedRange.quiet.map _)) _
  | markedRange =>
      exact plays_answer (plays_query (InputMethod.reading_composingRange.quiet.map _)) _
  | substring range =>
      refine plays_answer (plays_request ?_) _
      cases range.toRange? with
      | none => exact .pure _
      | some r => exact (InputMethod.reading_textInRange r).quiet.map _
  | firstRect range =>
      refine plays_answer (.get_bind fun w => ?_) _
      cases range.toRange? with
      | none => exact .nil w.arbiter
      | some r => exact plays_request ((InputMethod.quiet_boundingRect r).map _) w
  | characterIndex location =>
      exact plays_answer (.get_bind fun w =>
        plays_request ((InputMethod.reading_characterIndex _).quiet.map _) w) _
  | relay c =>
      exact (plays_relay c).bind fun _ => .pure _

/-! ## Turns and lives -/

theorem plays_turn (t : Turn K) : PlaysOn (turn t) := by
  cases t with
  | call c =>
      exact (plays_step c).bind fun _ => .pure _
  | adapt l =>
      intro w
      exact .single (.adapt l) fun e he => by cases he

theorem plays_replay (turns : List (Turn K)) : PlaysOn (Action.replay turn turns) := by
  induction turns with
  | nil =>
      exact .pure []
  | cons t turns ih =>
      exact (plays_turn t).bind fun _ => ih.bind fun _ => .pure _

theorem known_live (handle : WindowHandle) (attributes : Attributes K) (listener : Listener K)
    (contentSize : Size K) (turns : List (Turn K)) :
    Arbiter.Known 0
      (Effect.callbacks (live handle attributes listener contentSize turns).effects)
      (live handle attributes listener contentSize turns).state.arbiter := by
  have hplay := plays_replay turns (attach handle attributes listener contentSize)
  exact (Arbiter.Known.initial (Dispatcher.attach handle.id listener)).course hplay.course

end Events

end Window
end AppKit
end WindowRelay

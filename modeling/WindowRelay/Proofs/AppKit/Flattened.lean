import WindowRelay.Proofs.AppKit.Lifted
import WindowRelay.Proofs.Relay.PlainScrolling

/-!
# Flattened — phased scrolling as a plain stream

A window may want the gestures of a trackpad as plain scrolling.  Then what the fingers do is a
stream of deltas that stops when they lift, what the momentum does is dropped, and no scroll gesture
is ever begun.

- `AppKit.Window.Plain`: what holds of such a window, as long as only the toolkit calls it.
- `AppKit.Event.Moves`, `AppKit.Event.Lifts`, `AppKit.Event.IsMomentum`: the events of a gesture.
- `AppKit.Window.stream`: what is told of the deltas.
- `AppKit.Window.flattened_gestures_are_streams`: the callbacks of a whole gesture, after any life.
-/

namespace WindowRelay

/-! ## Arbiters without a scroll gesture -/

namespace Arbiter

variable {K : Type} {a b : Arbiter K} {es : List (Effect K)} {P : Effect K → Prop}

/-- Only a callback that begins a scroll gesture opens one. -/
theorem Move.vacant (h : Move a es b) (unbegun : ∀ n p, .callback (.beginScroll n p) ∉ es)
    (vacant : a.scroll.session = none) : b.scroll.session = none := by
  cases h with
  | beginScroll p attached idle => exact absurd (List.mem_singleton_self _) (unbegun _ p)
  | scrollMotion precise d v t isOpen moving => exact nomatch vacant.symm.trans isOpen
  | lift isOpen tracking => exact nomatch vacant.symm.trans isOpen
  | momentum isOpen lifted => exact nomatch vacant.symm.trans isOpen
  | releaseScroll isOpen => exact nomatch vacant.symm.trans isOpen
  | cancelScroll isOpen => exact nomatch vacant.symm.trans isOpen
  | _ => exact vacant

theorem Play.vacant (h : Play P a es b) (unbegun : ∀ n p, .callback (.beginScroll n p) ∉ es)
    (vacant : a.scroll.session = none) : b.scroll.session = none := by
  induction h with
  | nil a =>
      exact vacant
  | cons first _ _ ih =>
      refine ih (fun n p hmem => unbegun n p (List.mem_append_right _ hmem)) ?_
      exact first.vacant (fun n p hmem => unbegun n p (List.mem_append_left _ hmem)) vacant

end Arbiter

namespace AppKit

/-! ## Calls of the toolkit -/

/-- A call of the toolkit, and not one of the relay itself. -/
def Call.isNative {K : Type} : Call K → Bool
  | .relay _ => false
  | _ => true

/-- The wheel event of a call. -/
def Call.wheel? {K : Type} : Call K → Option (Event K)
  | .event e => if e.type = .scrollWheel then some e else none
  | _ => none

theorem Call.wheel_eq_some {K : Type} {c : Call K} {e : Event K} (h : c.wheel? = some e) :
    c = .event e ∧ e.type = .scrollWheel := by
  cases c with
  | event e' =>
      by_cases htype : e'.type = .scrollWheel
      · have he : e' = e := by simpa [wheel?, htype] using h
        subst he
        exact ⟨rfl, htype⟩
      · simp [wheel?, htype] at h
  | _ => cases h

/-- A turn in which the toolkit calls the window, or the listener changes. -/
def Window.Turn.isNative {K : Type} : Window.Turn K → Bool
  | .call c => c.isNative
  | .adapt _ => true

namespace Event

variable {K : Type}

/-- An event of the fingers before they lift. -/
structure Moves (e : Event K) : Prop where
  wheel : e.type = .scrollWheel
  still : e.momentum.isEmpty = true
  lasts : (e.phase.has .ended || e.phase.has .cancelled) = false

/-- The fingers lift, or the gesture is called off. -/
structure Lifts (e : Event K) : Prop where
  wheel : e.type = .scrollWheel
  still : e.momentum.isEmpty = true
  ends : (e.phase.has .ended || e.phase.has .cancelled) = true

structure IsMomentum (e : Event K) : Prop where
  wheel : e.type = .scrollWheel
  momentum : e.momentum.isEmpty = false

end Event

namespace Window

open Act

section Rests

variable {K α : Type}

theorem rests_relaying {m : Act K (Relay K) α} (h : Rests id m) :
    Rests Window.relay (relaying m) where
  attributes w := h.attributes w.relay
  line w := h.line w.relay
  tracker w := h.tracker w.relay
  unscrolled w := h.unscrolled w.relay

theorem rests_notify {c : Callback K} (h : c.isScroll = false) :
    Rests Window.relay (relaying (Relay.dispatch (Dispatcher.notify c))) :=
  rests_relaying (Relay.rests_notify h)

theorem rests_query {missing : α} {m : Editing K α} (h : Editing.Quiet m) :
    Rests Window.relay (relaying (Relay.query missing m)) :=
  rests_relaying (Relay.rests_query h)

theorem rests_request {name : String} {missing : α} {m : Editing K α} (h : Editing.Quiet m) :
    Rests Window.relay (relaying (Relay.request name missing m)) :=
  rests_relaying (Relay.rests_request h)

theorem rests_setContentHeight (height : K) :
    Rests Window.relay (setContentHeight height : Act K (Window K) Unit) :=
  .modify (fun _ => rfl) (fun _ => rfl) fun _ => rfl

theorem rests_adapt [Scalar K] (l : Listener K) : Rests Window.relay (turn (.adapt l)) :=
  .modify (fun _ => rfl) (fun _ => rfl) fun _ => rfl

variable [Scalar K]

theorem rests_mouseButton (e : Event K) (pressed : Bool) :
    Rests Window.relay (mouseButton e pressed) := by
  refine .get_bind fun w => ?_
  cases e.buttonNumber.toNat?.bind MouseButton.ofIndex? with
  | none => exact .warnIf true .unknownMouseButton
  | some b => exact rests_relaying (Relay.rests_pointer _)

/-- Any event but those of the wheel. -/
theorem rests_handle {e : Event K} (still : e.type ≠ .scrollWheel) :
    Rests Window.relay (handle e) := by
  unfold handle
  cases htype : e.type with
  | leftMouseDown | rightMouseDown | otherMouseDown => exact rests_mouseButton e true
  | leftMouseUp | rightMouseUp | otherMouseUp => exact rests_mouseButton e false
  | mouseMoved | leftMouseDragged | rightMouseDragged | otherMouseDragged =>
      exact .get_bind fun w => rests_relaying (Relay.rests_pointer _)
  | mouseExited => exact rests_relaying Relay.rests_pointerLeft
  | scrollWheel => exact absurd htype still

theorem rests_step {c : Call K} (native : c.isNative = true) (still : c.wheel? = none) :
    Rests Window.relay (step c) := by
  cases c with
  | event e =>
      refine .bind (rests_handle fun htype => ?_) fun _ => .pure _
      simp [Call.wheel?, htype] at still
  | setContentHeight height => exact (rests_setContentHeight height).bind fun _ => .pure _
  | shouldClose =>
      exact (rests_relaying (Relay.rests_dispatch (Dispatcher.tells_shouldClose rfl))).bind
        fun _ => .pure _
  | willClose => exact (rests_relaying Relay.rests_close).bind fun _ => .pure _
  | didResize size =>
      exact ((rests_setContentHeight size.height).bind fun _ => rests_notify rfl).bind
        fun _ => .pure _
  | didChangeBacking => exact (rests_notify rfl).bind fun _ => .pure _
  | didBecomeKey => exact (rests_relaying (Relay.rests_focus true)).bind fun _ => .pure _
  | didResignKey => exact (rests_relaying (Relay.rests_focus false)).bind fun _ => .pure _
  | updateReady => exact (rests_notify rfl).bind fun _ => .pure _
  | hitTest location =>
      refine .bind (.get_bind fun w => ?_) fun _ => .pure _
      exact rests_relaying (Relay.rests_dispatch (Dispatcher.tells_hitTest rfl))
  | flushGestures => exact (rests_relaying Relay.rests_settleLifted).bind fun _ => .pure _
  | hasTextContext =>
      exact (rests_relaying (Relay.rests_dispatch Dispatcher.tells_hasEditor)).bind
        fun _ => .pure _
  | hasMarkedText =>
      exact (rests_query (InputMethod.reading_composingRange.quiet.map _)).map _
  | insertText text replacement =>
      exact (rests_request ((InputMethod.quiet_insertText text _).map _)).map _
  | setMarkedText text selection replacement =>
      exact (rests_request (InputMethod.quiet_setComposingText text _ _)).map _
  | unmarkText => exact (rests_request (.setComposition none)).map _
  | selectedRange =>
      exact (rests_query (InputMethod.reading_selectedRange.quiet.map _)).map _
  | markedRange =>
      exact (rests_query (InputMethod.reading_composingRange.quiet.map _)).map _
  | substring range =>
      refine (rests_request ?_).map _
      cases range.toRange? with
      | none => exact .pure _
      | some r => exact (InputMethod.reading_textInRange r).quiet.map _
  | firstRect range =>
      refine Rests.map (.get_bind fun w => ?_) _
      cases range.toRange? with
      | none => exact .pure _
      | some r => exact rests_request ((InputMethod.quiet_boundingRect r).map _)
  | characterIndex location =>
      refine Rests.map (.get_bind fun w => ?_) _
      exact rests_request ((InputMethod.reading_characterIndex _).quiet.map _)
  | relay c => cases native

end Rests

/-! ## Windows that want plain scrolling -/

variable {K : Type} {w : Window K} {log : List (Effect K)}

/-- The window as it is with another state of its tracker. -/
def track (w : Window K) (t : PhaseTracker) : Window K :=
  { w with relay := { w.relay with tracker := t } }

/-- What holds after a life in which the toolkit alone called the window. -/
structure Plain (w : Window K) (log : List (Effect K)) : Prop where
  flat : w.relay.attributes.scrollGestures = false
  unbegun : ∀ n p, .callback (.beginScroll n p) ∉ log
  vacant : w.arbiter.scroll.session = none
  stream : w.relay.InStream log

namespace Plain

theorem initial (native : WindowHandle) {attributes : Attributes K} (listener : Listener K)
    (contentSize : Size K) (flat : attributes.scrollGestures = false) [Scalar K] :
    (attach native attributes listener contentSize).Plain [] where
  flat := flat
  unbegun _ _ h := by cases h
  vacant := rfl
  stream _ := by
    constructor
    · intro h
      cases h
    · intro h
      exact absurd h not_since_nil

theorem rests {α : Type} {m : Act K (Window K) α} (h : w.Plain log) (plays : PlaysOn m)
    (hm : Rests Window.relay m) : (m.run w).state.Plain (log ++ (m.run w).effects) := by
  have hunbegun (n : Nat) (p : Point K) :
      .callback (.beginScroll n p) ∉ (m.run w).effects := by
    intro hmem
    cases hm.unscrolled w _ hmem
  refine ⟨?_, fun n p hmem => ?_, (plays w).vacant hunbegun h.vacant, h.stream.rests hm⟩
  · have hkept := congrArg Attributes.scrollGestures (hm.attributes w)
    exact hkept.trans h.flat
  · rcases List.mem_append.1 hmem with hmem | hmem
    · exact h.unbegun n p hmem
    · exact hunbegun n p hmem

end Plain

section Events

variable [Scalar K] {e : Event K}

theorem run_handle_flat (flat : w.relay.attributes.scrollGestures = false)
    (wheel : e.type = .scrollWheel) : (handle e).run w = (scrollFlat e).run w := by
  simp [handle, wheel, run_scrollWheel, flat]

/-- A delta, told by a window with nothing to settle. -/
theorem run_delta (vacant : w.arbiter.scroll.session = none) (p : Point K) (d : Delta K)
    (t : Time) :
    (relaying (Relay.scroll (.delta p d t))).run w =
      ⟨(), w.track ⟨.continuous, some (max w.relay.tracker.mark t)⟩,
        if w.arbiter.dispatcher.attached then
          [.callback (.scrollContinuous p d (max w.relay.tracker.mark t))]
        else []⟩ := by
  have hsettle : Arbiter.settleLifted.run w.relay.arbiter = ⟨(), w.relay.arbiter, []⟩ :=
    Arbiter.run_settleLifted_vacant vacant
  rw [relaying, Action.run_within, Relay.run_delta, hsettle]
  rfl

theorem run_stop (vacant : w.arbiter.scroll.session = none) (p : Point K) (t : Time) :
    (relaying (Relay.scroll (.stop p t))).run w =
      ⟨(), w.track ⟨if w.relay.tracker.phase = .continuous then .momentumEnd else .idle,
          some (max w.relay.tracker.mark t)⟩,
        if w.relay.tracker.phase = .continuous ∧ w.arbiter.dispatcher.attached = true then
          [.callback (.scrollStop (max w.relay.tracker.mark t))]
        else []⟩ := by
  have hsettle : Arbiter.settleLifted.run w.relay.arbiter = ⟨(), w.relay.arbiter, []⟩ :=
    Arbiter.run_settleLifted_vacant vacant
  rw [relaying, Action.run_within, Relay.run_stop, hsettle]
  rfl

namespace Plain

theorem delta (h : w.Plain log) (p : Point K) (d : Delta K) (t : Time) :
    let out := (relaying (Relay.scroll (.delta p d t))).run w
    out.state.Plain (log ++ out.effects) := by
  intro out
  have hrun : out = _ := run_delta h.vacant p d t
  refine ⟨?_, fun n p hmem => ?_, ?_, Relay.inStream_delta p d t w.relay log⟩
  · rw [hrun]
    exact h.flat
  · rw [hrun] at hmem
    rcases List.mem_append.1 hmem with hmem | hmem
    · exact h.unbegun n p hmem
    · cases hline : w.arbiter.dispatcher.attached <;> simp [hline] at hmem
  · rw [hrun]
    exact h.vacant

theorem stop (h : w.Plain log) (p : Point K) (t : Time) :
    let out := (relaying (Relay.scroll (.stop p t))).run w
    out.state.Plain (log ++ out.effects) := by
  intro out
  have hrun : out = _ := run_stop h.vacant p t
  refine ⟨?_, fun n p hmem => ?_, ?_, h.stream.stop p t⟩
  · rw [hrun]
    exact h.flat
  · rw [hrun] at hmem
    rcases List.mem_append.1 hmem with hmem | hmem
    · exact h.unbegun n p hmem
    · split at hmem <;> simp at hmem
  · rw [hrun]
    exact h.vacant

theorem handle_wheel (h : w.Plain log) (wheel : e.type = .scrollWheel) :
    let out := (handle e).run w
    out.state.Plain (log ++ out.effects) := by
  intro out
  have hrun : out = _ := run_handle_flat h.flat wheel
  rw [hrun, run_scrollFlat]
  split
  · simpa using h
  · split
    · exact h.stop _ _
    · split
      · simpa using h
      · exact h.delta _ _ _

theorem turn {t : Turn K} (h : w.Plain log) (native : t.isNative = true) :
    let out := (Window.turn t).run w
    out.state.Plain (log ++ out.effects) := by
  cases t with
  | adapt l => exact h.rests (plays_turn (.adapt l)) (rests_adapt l)
  | call c =>
      cases hwheel : c.wheel? with
      | none =>
          exact h.rests (plays_turn (.call c)) ((rests_step native hwheel).bind fun _ => .pure _)
      | some e =>
          rcases Call.wheel_eq_some hwheel with ⟨rfl, htype⟩
          simpa [Window.turn, step] using h.handle_wheel htype

theorem replay {turns : List (Turn K)} (h : w.Plain log)
    (native : ∀ t ∈ turns, t.isNative = true) :
    let run := (Action.replay Window.turn turns).run w
    run.state.Plain (log ++ run.effects) := by
  induction turns generalizing w log with
  | nil =>
      simpa using h
  | cons t turns ih =>
      have hfirst := h.turn (native t (List.mem_cons_self ..))
      have hrest := ih hfirst fun t ht => native t (List.mem_cons_of_mem _ ht)
      simpa [Action.run_replay_cons] using hrest

end Plain

/-! ## The events of a gesture -/

/-- What is told of some deltas: each at its own time, or at the latest time before it. -/
def stream (w : Window K) (mark : Time) : List (Event K) → List (Callback K)
  | [] => []
  | e :: es =>
      .scrollContinuous (w.toContent e.location) (w.scrollDelta e) (max mark e.time) ::
        stream w (max mark e.time) es

/-- The latest time that was seen, after some deltas. -/
def latest (mark : Time) (es : List (Event K)) : Time :=
  es.foldl (fun t e => max t e.time) mark

/-- The events that have a delta. -/
def moving (w : Window K) (es : List (Event K)) : List (Event K) :=
  es.filter fun e => !(w.scrollDelta e).isZero

theorem stream_track (w : Window K) (t : PhaseTracker) (mark : Time) (es : List (Event K)) :
    (w.track t).stream mark es = w.stream mark es := by
  induction es generalizing mark with
  | nil => rfl
  | cons e es ih => exact congrArg (List.cons _) (ih _)

section Runs

variable (flat : w.relay.attributes.scrollGestures = false)
include flat

theorem run_momentum (h : e.IsMomentum) : (handle e).run w = ⟨(), w, []⟩ := by
  rw [run_handle_flat flat h.wheel, run_scrollFlat]
  simp [h.momentum]

theorem run_momenta {rest : List (Event K)} (momentum : ∀ e ∈ rest, e.IsMomentum) :
    (Action.each handle rest).run w = ⟨(), w, []⟩ := by
  induction rest with
  | nil => rfl
  | cons e rest ih =>
      have hfirst := run_momentum flat (momentum e (List.mem_cons_self ..))
      have hrest := ih fun e he => momentum e (List.mem_cons_of_mem _ he)
      simp only [Action.each, Action.run_bind, hfirst, hrest, List.append_nil]

theorem run_move_still (h : e.Moves) (zero : (w.scrollDelta e).isZero = true) :
    (handle e).run w = ⟨(), w, []⟩ := by
  rw [run_handle_flat flat h.wheel, run_scrollFlat]
  simp [h.still, h.lasts, zero]

variable (vacant : w.arbiter.scroll.session = none)
include vacant

theorem run_lift (h : e.Lifts) :
    (handle e).run w =
      ⟨(), w.track ⟨if w.relay.tracker.phase = .continuous then .momentumEnd else .idle,
          some (max w.relay.tracker.mark e.time)⟩,
        if w.relay.tracker.phase = .continuous ∧ w.arbiter.dispatcher.attached = true then
          [.callback (.scrollStop (max w.relay.tracker.mark e.time))]
        else []⟩ := by
  rw [run_handle_flat flat h.wheel, run_scrollFlat, ← run_stop vacant (w.toContent e.location)]
  simp [h.still, h.ends]

variable (line : w.arbiter.dispatcher.attached = true)
include line

theorem run_move (h : e.Moves) (moves : (w.scrollDelta e).isZero = false) :
    (handle e).run w =
      ⟨(), w.track ⟨.continuous, some (max w.relay.tracker.mark e.time)⟩,
        [.callback (.scrollContinuous (w.toContent e.location) (w.scrollDelta e)
          (max w.relay.tracker.mark e.time))]⟩ := by
  have hrun := run_delta vacant (w.toContent e.location) (w.scrollDelta e) e.time
  rw [line, if_pos rfl] at hrun
  rw [run_handle_flat flat h.wheel, run_scrollFlat, ← hrun]
  simp [h.still, h.lasts, moves]

/-- The window after some events of the fingers, and what they told. -/
theorem run_moves {moves : List (Event K)} (fingers : ∀ e ∈ moves, e.Moves) :
    ∃ t : PhaseTracker,
      (Action.each handle moves).run w =
          ⟨(), w.track t, (w.stream w.relay.tracker.mark (w.moving moves)).map .callback⟩ ∧
        t.mark = latest w.relay.tracker.mark (w.moving moves) ∧
        (t.phase = .continuous ↔
          w.moving moves ≠ [] ∨ w.relay.tracker.phase = .continuous) := by
  induction moves generalizing w with
  | nil => exact ⟨w.relay.tracker, rfl, rfl, by simp [moving]⟩
  | cons e moves ih =>
      have hfirst := fingers e (List.mem_cons_self ..)
      have hrest : ∀ e ∈ moves, e.Moves := fun e he => fingers e (List.mem_cons_of_mem _ he)
      cases hzero : (w.scrollDelta e).isZero with
      | true =>
          rcases ih flat vacant line hrest with ⟨t, hrun, hmark, hphase⟩
          have hmoving : w.moving (e :: moves) = w.moving moves := by
            simp [moving, hzero]
          refine ⟨t, ?_, by rw [hmoving, hmark], by rw [hmoving, hphase]⟩
          simp only [Action.each, Action.run_bind, run_move_still flat hfirst hzero, hrun,
            List.nil_append, hmoving]
      | false =>
          let next := w.track ⟨.continuous, some (max w.relay.tracker.mark e.time)⟩
          have hhead : (handle e).run w = ⟨(), next, _⟩ := run_move flat vacant line hfirst hzero
          rcases ih (w := next) flat vacant line hrest with ⟨t, hrun, hmark, hphase⟩
          have htold : next.stream next.relay.tracker.mark (next.moving moves) =
              w.stream (max w.relay.tracker.mark e.time) (next.moving moves) :=
            stream_track w _ _ _
          have hmoving : w.moving (e :: moves) = e :: next.moving moves := by
            simp [moving, hzero]
            rfl
          rw [htold] at hrun
          refine ⟨t, ?_, ?_, ?_⟩
          · rw [Action.each, Action.run_bind, hhead, hrun, hmoving]
            rfl
          · rw [hmoving, hmark]
            rfl
          · rw [hmoving, hphase]
            simp [next, track]

end Runs

/-! ## The main result -/

theorem plain_live (native : WindowHandle) {attributes : Attributes K} (listener : Listener K)
    (contentSize : Size K) {turns : List (Turn K)} (flat : attributes.scrollGestures = false)
    (unhosted : ∀ t ∈ turns, t.isNative = true) :
    let past := live native attributes listener contentSize turns
    past.state.Plain past.effects :=
  (Plain.initial native listener contentSize flat).replay unhosted

/-- A window that wants plain scrolling begins no scroll gesture, whatever its toolkit does.  While
its line holds, a gesture of the fingers tells its deltas as they come, ends with a stop if they or
what came before made a stream, and is followed by silence. -/
theorem flattened_gestures_are_streams (native : WindowHandle) (attributes : Attributes K)
    (listener : Listener K) (contentSize : Size K) (turns : List (Turn K))
    (flat : attributes.scrollGestures = false) (unhosted : ∀ t ∈ turns, t.isNative = true)
    (moves : List (Event K)) (last : Event K) (rest : List (Event K))
    (fingers : ∀ e ∈ moves, e.Moves) (lifts : last.Lifts) (momentum : ∀ e ∈ rest, e.IsMomentum) :
    let past := live native attributes listener contentSize turns
    let w := past.state
    let mark := w.relay.tracker.mark
    let moved := (Action.each handle moves).run w
    let lifted := (handle last).run moved.state
    ((∀ n p, .callback (.beginScroll n p) ∉ past.effects) ∧ w.arbiter.scroll.session = none) ∧
      (w.arbiter.dispatcher.attached = true →
        moved.effects = (w.stream mark (w.moving moves)).map .callback ∧
        (w.moving moves ≠ [] ∨ Effect.Streaming past.effects →
          lifted.effects =
            [.callback (.scrollStop (max (latest mark (w.moving moves)) last.time))]) ∧
        (w.moving moves = [] → ¬ Effect.Streaming past.effects → lifted.effects = []) ∧
        lifted.state.arbiter = w.arbiter ∧
        (Action.each handle rest).run lifted.state = ⟨(), lifted.state, []⟩) := by
  intro past w mark moved lifted
  have hplain : w.Plain past.effects := plain_live native listener contentSize flat unhosted
  refine ⟨⟨hplain.unbegun, hplain.vacant⟩, fun line => ?_⟩
  rcases run_moves hplain.flat hplain.vacant line fingers with ⟨t, hmoves, hmark, hphase⟩
  rw [hplain.stream line] at hphase
  have hmoved : moved = _ := hmoves
  have hlift := run_lift (w := w.track t) hplain.flat hplain.vacant lifts
  have hlifted : lifted = (handle last).run (w.track t) := by
    simp only [lifted, hmoved]
  rw [hlifted, hlift]
  refine ⟨by rw [hmoved], fun hstreams => ?_, fun hstill hidle => ?_, rfl, ?_⟩
  · have hstop : t.phase = .continuous ∧ w.arbiter.dispatcher.attached = true :=
      ⟨hphase.2 hstreams, line⟩
    rw [← hmark]
    exact if_pos hstop
  · have hnone : ¬ (t.phase = .continuous ∧ w.arbiter.dispatcher.attached = true) := by
      rintro ⟨hstop, -⟩
      rcases hphase.1 hstop with hmoving | hstreams
      · exact hmoving hstill
      · exact hidle hstreams
    exact if_neg hnone
  · have hflat (t' : PhaseTracker) :
        ((w.track t).track t').relay.attributes.scrollGestures = false := hplain.flat
    exact run_momenta (hflat _) momentum

end Events

/-! ## A gesture after a plain wheel -/

/-- Two lines of a wheel without phases. -/
def twoLines : Event Rat :=
  Event.scrollWheel ⟨10, 20⟩ ⟨0, 2⟩

def threePoints (bit : PhaseBit) : Event Rat :=
  { Event.scrollWheel ⟨10, 20⟩ ⟨0, 3⟩ with hasPreciseDeltas := true, phase := Mask.single bit }

def gliding : Event Rat :=
  { Event.scrollWheel ⟨10, 20⟩ ⟨0, 5⟩ with momentum := Mask.single .began }

/-- The wheel began the stream, the fingers rest and then move, and the delta of their end is not
told. -/
theorem flattened_gestures_are_streams_after_a_wheel :
    let flat : Attributes Rat := { Attributes.standard with scrollGestures := false }
    let past := live (.detached ⟨1⟩) flat Listener.deaf ⟨100, 100⟩ [.call (.event twoLines)]
    let moved := (Action.each handle [phased .began, threePoints .changed]).run past.state
    let lifted := (handle (threePoints .ended)).run moved.state
    past.state.arbiter.dispatcher.attached = true ∧ Effect.Streaming past.effects ∧
      (∀ e ∈ [phased .began, threePoints .changed], e.Moves) ∧ (threePoints .ended).Lifts ∧
      gliding.IsMomentum ∧
      (∃ t, moved.effects = [.callback (.scrollContinuous ⟨10, 80⟩ ⟨0, 3⟩ t)]) ∧
      (∃ t, lifted.effects = [.callback (.scrollStop t)]) ∧
      (Action.each handle [gliding]).run lifted.state = ⟨(), lifted.state, []⟩ := by
  intro flat past moved lifted
  have hnative : ∀ t ∈ [Turn.call (.event twoLines)], t.isNative = true := by
    simp [Turn.isNative, Call.isNative]
  have hline : past.state.arbiter.dispatcher.attached = true := by
    decide +kernel
  have hstreams : Effect.Streaming past.effects :=
    ((plain_live _ _ _ rfl hnative).stream hline).1 (by decide +kernel)
  have hfingers : ∀ e ∈ [phased .began, threePoints .changed], e.Moves := by
    intro e he
    rcases List.mem_pair.1 he with rfl | rfl
    · exact ⟨rfl, rfl, by decide +kernel⟩
    · exact ⟨rfl, rfl, by decide +kernel⟩
  have hlifts : (threePoints .ended).Lifts :=
    ⟨rfl, rfl, by decide +kernel⟩
  have hmomentum : gliding.IsMomentum :=
    ⟨rfl, by decide +kernel⟩
  have hrests : (past.state.scrollDelta (phased .began)).isZero = true := by
    decide +kernel
  have hdelta : past.state.scrollDelta (threePoints .changed) = ⟨0, 3⟩ := by
    decide +kernel
  have hplace : past.state.toContent (threePoints .changed).location = ⟨10, 80⟩ := by
    decide +kernel
  have hmoves : (⟨0, 3⟩ : Delta Rat).isZero = false := by
    decide +kernel
  have hmoving : past.state.moving [phased .began, threePoints .changed] =
      [threePoints .changed] := by
    simp [moving, hrests, hdelta, hmoves]
  have h := flattened_gestures_are_streams (.detached ⟨1⟩) flat Listener.deaf ⟨100, 100⟩
    [.call (.event twoLines)] rfl hnative _ _ [gliding] hfingers hlifts
    (List.forall_mem_singleton.2 hmomentum)
  rcases h.2 hline with ⟨hmoved, hlifted, -, -, hrest⟩
  have htold (mark : Time) : past.state.stream mark [threePoints .changed] =
      [.scrollContinuous ⟨10, 80⟩ ⟨0, 3⟩ (max mark (threePoints .changed).time)] := by
    rw [stream, hplace, hdelta, stream]
  refine ⟨hline, hstreams, hfingers, hlifts, hmomentum,
    ⟨max past.state.relay.tracker.mark (threePoints .changed).time, hmoved.trans ?_⟩,
    ⟨_, hlifted (.inr hstreams)⟩, hrest⟩
  exact congrArg (List.map Effect.callback) ((congrArg _ hmoving).trans (htold _))

end Window
end AppKit
end WindowRelay

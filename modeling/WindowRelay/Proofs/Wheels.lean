import WindowRelay.Gtk.Window
import WindowRelay.Proofs.Exact
import WindowRelay.Proofs.Relay.PlainScrolling
import WindowRelay.Proofs.Scroll.Laps
import WindowRelay.Win32.Window

/-!
# Wheels — the times at which a window hears of its wheel

GTK and Win32 put the reading of a counter of 32 bits on every event, and the window takes it for
the time itself.  From one wheel event to the next its listener hears the time that went by, as
long as the counter does not start again.  Then time stands still, until the counter is back where
it was.

- `Effect.continuousTimes`: the times that are heard.
- `Gtk.Rolls`, `Win32.Window.Rolls`: how a toolkit tells that the wheel moved by less than a step.
- `Act.Rolls`: an operation that does to the relay what such a motion does.
- `wheel_times_follow_the_counter`: what is heard is the latest of what the counter told.
- `wheel_times_stand_still`: across the end of a lap a difference of five milliseconds is lost.
-/

namespace WindowRelay

/-! ## What is heard -/

/-- The time of a continuous scroll. -/
def Callback.continuousTime? {K : Type} : Callback K → Option Time
  | .scrollContinuous _ _ t => some t
  | _ => none

namespace Effect

variable {K : Type}

def continuousTimes (es : List (Effect K)) : List Time :=
  (callbacks es).filterMap Callback.continuousTime?

theorem continuousTimes_append (es fs : List (Effect K)) :
    continuousTimes (es ++ fs) = continuousTimes es ++ continuousTimes fs := by
  simp [continuousTimes]

end Effect

/-! ## One motion of the wheel -/

/-- A lifted gesture is settled on its own session. -/
theorem Arbiter.continuousTimes_settleLifted {K : Type} (a : Arbiter K) :
    Effect.continuousTimes (settleLifted.run a).effects = [] := by
  by_cases hlifted : a.stage? = some .lifted
  · rcases Option.map_eq_some_iff.1 hlifted with ⟨s, hs, -⟩
    rw [run_settleLifted_lifted hlifted, run_finishScroll_release hs]
    rfl
  · rw [run_settleLifted_other hlifted]
    rfl

namespace Relay

variable {K : Type} [Scalar K] {r : Relay K}

/-- A delta is heard at its own time, or at a later one that was seen before. -/
theorem scroll_delta (p : Point K) (d : Delta K) (t : Time)
    (line : r.arbiter.dispatcher.attached = true) :
    let next := (scroll (.delta p d t)).run r
    Effect.continuousTimes next.effects = [max r.tracker.mark t] ∧
      next.state.tracker.mark = max r.tracker.mark t ∧
        next.state.arbiter.dispatcher.attached = true := by
  intro next
  have hnext : next = _ := run_delta p d t r
  have hsettle := Arbiter.continuousTimes_settleLifted r.arbiter
  have hline := (Arbiter.attached_settleLifted r.arbiter).trans line
  rw [hnext, if_pos line, Effect.continuousTimes_append, hsettle]
  exact ⟨rfl, rfl, hline⟩

end Relay

/-! ## A run of motions -/

namespace Act

variable {K σ α : Type} [Scalar K] {I : σ → Prop} {view : σ → Relay K}

/-- From a state that satisfies `I`, `m` does to the relay what a delta does at the time `t`, and
`I` holds again. -/
def Rolls (I : σ → Prop) (view : σ → Relay K) (m : Act K σ α) (t : Time) : Prop :=
  ∀ s, I s → I (m.run s).state ∧
    ∃ p d, view (m.run s).state = ((Relay.scroll (.delta p d t)).run (view s)).state ∧
      (m.run s).effects = ((Relay.scroll (.delta p d t)).run (view s)).effects

theorem Rolls.replay {κ : Type} {act : κ → Act K σ α} {times : List Nat} {ks : List κ}
    (h : List.Forall₂ (fun t k => Rolls I view (act k) (Time.counted t)) times ks) {s : σ}
    (hs : I s) (line : (view s).arbiter.dispatcher.attached = true) :
    Effect.continuousTimes ((Action.replay act ks).run s).effects =
      Time.marks (view s).tracker.mark times := by
  induction h generalizing s with
  | nil =>
      rfl
  | @cons t k _ ks first _ ih =>
      rcases first s hs with ⟨hs', p, d, hview, heffects⟩
      rcases Relay.scroll_delta p d (Time.counted t) line with ⟨hheard, hmark, hline⟩
      rw [← hview] at hmark hline
      calc
        Effect.continuousTimes ((Action.replay act (k :: ks)).run s).effects
            = Effect.continuousTimes ((act k).run s).effects ++
                Effect.continuousTimes
                  ((Action.replay act ks).run ((act k).run s).state).effects := by
              rw [Action.run_replay_cons, Effect.continuousTimes_append]
        _ = [max (view s).tracker.mark (Time.counted t)] ++
              Time.marks (view ((act k).run s).state).tracker.mark _ := by
              rw [heffects, hheard, ih hs' hline]
        _ = Time.marks (view s).tracker.mark _ := by
              rw [hmark]
              rfl

end Act

/-! ## GTK -/

namespace Gtk

variable {K : Type} [Scalar K]

/-- A smooth scroll event that goes on and is not empty, with the reading of the counter. -/
inductive Rolls (t : Nat) : Event K → Prop
  | smooth (e : WheelEvent K) (smooth : e.direction = .smooth) (lasts : e.isStop = false)
      (moves : e.delta.isZero = false) (time : e.time = Time.reading t) : Rolls t (.scroll e)

theorem Window.rolls {t : Nat} {e : Event K} (h : Rolls t e) :
    Act.Rolls (fun _ => True) Window.relay (step (.event e)) (Time.counted t) := by
  intro w _
  rcases h with ⟨e, smooth, lasts, moves, time⟩
  let d := e.delta.neg.scale w.relay.attributes.lineHeight
  have hinput : scrollInput? w.relay.attributes.lineHeight e =
      some (.delta e.position d (Time.counted t)) := by
    simp [scrollInput?, smooth, lasts, moves, time, Time.counted, d]
  refine ⟨trivial, e.position, d, ?_⟩
  simp [step, handle, scroll, relaying, hinput]

/-- The times that are heard while a window handles some events. -/
def Window.heardTimes (w : Window K) (events : List (Event K)) : List Time :=
  Effect.continuousTimes
    ((Action.replay (fun e => Window.step (.event e)) events).run w).effects

theorem Window.heardTimes_eq {w : Window K} {times : List Nat} {events : List (Event K)}
    (line : w.relay.arbiter.dispatcher.attached = true) (h : List.Forall₂ Rolls times events) :
    w.heardTimes events = Time.marks w.relay.tracker.mark times :=
  Act.Rolls.replay (h.imp fun _ _ => Window.rolls) trivial line

end Gtk

/-! ## Win32 -/

namespace Win32
namespace Window

variable {K : Type} [Scalar K]

/-- A wheel message of no whole number of notches, with the reading of the counter, at a position
that the window can make out. -/
structure Rolls (w : Window K) (t : Nat) (m : Message) : Prop where
  wheel : m.number = 0x020A ∨ m.number = 0x020E
  fraction : (hiSigned m.wParam32).tmod wheelNotch ≠ 0
  placed : ∃ p, w.screenPoint m = .ok p
  time : m.time = Time.reading t

/-- The origin alone decides whether a position on the screen can be made out. -/
theorem screenPoint_ok {v w : Window K} (h : v.clientOrigin = w.clientOrigin) {m : Message}
    (placed : ∃ p, w.screenPoint m = .ok p) : ∃ p, v.screenPoint m = .ok p := by
  rcases placed with ⟨p, hp⟩
  simp only [screenPoint, ← h] at hp ⊢
  split at hp
  · rename_i hdistance
    exact ⟨_, if_pos hdistance⟩
  · cases hp

theorem rolls {w : Window K} {t : Nat} {m : Message} (h : w.Rolls t m) :
    Act.Rolls (fun v : Window K => v.clientOrigin = w.clientOrigin) Window.relay
      (step (.message m)) (Time.counted t) := by
  intro v hv
  rcases screenPoint_ok hv h.placed with ⟨p, hp⟩
  have hinputs (vertical : Bool) : ∃ d, v.wheelInputs vertical (hiSigned m.wParam32) p
      (Time.ofMillis m.time.toNat) = [.delta p d (Time.counted t)] := by
    simp only [wheelInputs, if_neg h.fraction, h.time]
    exact ⟨_, rfl⟩
  rcases h.wheel with hnumber | hnumber
  · rcases hinputs true with ⟨d, hd⟩
    refine ⟨?_, p, d, ?_⟩ <;>
      simp [step, handle, hnumber, MessageKind.ofNumber?, handleKind, mouseWheel, hp, hd, relaying,
        Action.each, hv]
  · rcases hinputs false with ⟨d, hd⟩
    refine ⟨?_, p, d, ?_⟩ <;>
      simp [step, handle, hnumber, MessageKind.ofNumber?, handleKind, mouseWheel, hp, hd, relaying,
        Action.each, hv]

/-- The times that are heard while a window handles some messages. -/
def heardTimes (w : Window K) (messages : List Message) : List Time :=
  Effect.continuousTimes
    ((Action.replay (fun m => step (.message m)) messages).run w).effects

theorem heardTimes_eq {w : Window K} {times : List Nat} {messages : List Message}
    (line : w.relay.arbiter.dispatcher.attached = true) (h : List.Forall₂ w.Rolls times messages) :
    w.heardTimes messages = Time.marks w.relay.tracker.mark times :=
  Act.Rolls.replay (h.imp fun _ _ => rolls) rfl line

end Window
end Win32

/-! ## The two toolkits -/

/-- The listener hears the latest of the times that the counter told, from whatever state the window
is in.  So the differences are those of the true times within one lap of the counter, and nothing is
added while it starts again. -/
theorem wheel_times_follow_the_counter {K : Type} [Scalar K] :
    (∀ (w : Gtk.Window K) (times : List Nat) (events : List (Gtk.Event K)),
      w.relay.arbiter.dispatcher.attached = true → Time.Steady times →
        List.Forall₂ Gtk.Rolls times events →
          Time.Follows w.relay.tracker.mark times (w.heardTimes events)) ∧
    (∀ (w : Win32.Window K) (times : List Nat) (messages : List Win32.Message),
      w.relay.arbiter.dispatcher.attached = true → Time.Steady times →
        List.Forall₂ w.Rolls times messages →
          Time.Follows w.relay.tracker.mark times (w.heardTimes messages)) := by
  constructor
  · intro w times events line steady hrolls
    rw [Gtk.Window.heardTimes_eq line hrolls]
    exact Time.follows_marks _ steady
  · intro w times messages line steady hrolls
    rw [Win32.Window.heardTimes_eq line hrolls]
    exact Time.follows_marks _ steady

/-! ## One half of a step at a time -/

def Gtk.halfLine (t : Nat) : Gtk.Event Rat :=
  .scroll ⟨⟨0, 0⟩, .smooth, ⟨0, 1 / 2⟩, false, Time.reading t⟩

def Win32.halfNotch (t : Nat) : Win32.Message :=
  ⟨0x020A, packWParam 0 60, 0, Time.reading t⟩

theorem Gtk.rolls_halfLine (t : Nat) : Gtk.Rolls t (Gtk.halfLine t) :=
  have hmoves : Point.isZero (⟨0, 1 / 2⟩ : Delta Rat) = false := by decide +kernel
  .smooth _ rfl rfl hmoves rfl

theorem Win32.rolls_halfNotch (t : Nat) {w : Win32.Window Rat} (h : w.clientOrigin = (0, 0)) :
    w.Rolls t (Win32.halfNotch t) := by
  have hamount : (hiSigned (packWParam 0 60).toUInt32).tmod Window.wheelNotch ≠ 0 := by
    decide
  have hcorner : loSigned 0 = 0 ∧ hiSigned 0 = 0 ∧ Window.isPixelDistance 0 = true := by
    decide
  have hzero : (Win32.halfNotch t).lParam32 = 0 :=
    rfl
  have hplaced : w.screenPoint (Win32.halfNotch t) = .ok (w.toLogical 0 0) := by
    simp [Window.screenPoint, h, hzero, hcorner]
  exact ⟨.inl rfl, hamount, ⟨_, hplaced⟩, rfl⟩

theorem Gtk.rolls_halfLines (times : List Nat) :
    List.Forall₂ Gtk.Rolls times (times.map Gtk.halfLine) := by
  apply List.forall₂_map_right_iff.2
  exact List.forall₂_same.2 fun t _ => Gtk.rolls_halfLine t

theorem Win32.rolls_halfNotches (times : List Nat) {w : Win32.Window Rat}
    (h : w.clientOrigin = (0, 0)) : List.Forall₂ w.Rolls times (times.map Win32.halfNotch) := by
  apply List.forall₂_map_right_iff.2
  exact List.forall₂_same.2 fun t _ => Win32.rolls_halfNotch t h

theorem wheel_times_follow_the_counter_in_its_first_lap :
    let gtk := Gtk.Window.attach (.detached ⟨1⟩) (Attributes.standard (K := Rat)) Listener.deaf
    let win32 := (Win32.Window.attach (.detached ⟨1⟩) (Attributes.standard (K := Rat))
      Listener.deaf 96).state
    let times := [10, 26]
    Time.Steady times ∧ List.Forall₂ Gtk.Rolls times (times.map Gtk.halfLine) ∧
      List.Forall₂ win32.Rolls times (times.map Win32.halfNotch) ∧
      Time.Follows .zero times (gtk.heardTimes (times.map Gtk.halfLine)) ∧
      Time.Follows .zero times (win32.heardTimes (times.map Win32.halfNotch)) := by
  intro gtk win32 times
  have hsteady : Time.Steady times := by
    decide
  have hgtk := Gtk.rolls_halfLines times
  have hwin32 : List.Forall₂ win32.Rolls times (times.map Win32.halfNotch) :=
    Win32.rolls_halfNotches times rfl
  refine ⟨hsteady, hgtk, hwin32, ?_, ?_⟩
  · exact wheel_times_follow_the_counter.1 gtk times _ rfl hsteady hgtk
  · exact wheel_times_follow_the_counter.2 win32 times _ rfl hsteady hwin32

/-- The second motion comes five milliseconds after the first, and the counter starts again between
them. -/
theorem wheel_times_stand_still :
    let gtk := Gtk.Window.attach (.detached ⟨1⟩) (Attributes.standard (K := Rat)) Listener.deaf
    let win32 := (Win32.Window.attach (.detached ⟨1⟩) (Attributes.standard (K := Rat))
      Listener.deaf 96).state
    let times := [4294967295, 4294967300]
    Time.Steady times ∧ List.Forall₂ Gtk.Rolls times (times.map Gtk.halfLine) ∧
      List.Forall₂ win32.Rolls times (times.map Win32.halfNotch) ∧
      ∃ a, gtk.heardTimes (times.map Gtk.halfLine) = [a, a] ∧
        win32.heardTimes (times.map Win32.halfNotch) = [a, a] ∧
        a - a ≠ Time.ofMillis (4294967300 - 4294967295) := by
  intro gtk win32 times
  have hsteady : Time.Steady times := by
    decide
  have hgtk := Gtk.rolls_halfLines times
  have hwin32 : List.Forall₂ win32.Rolls times (times.map Win32.halfNotch) :=
    Win32.rolls_halfNotches times rfl
  have hmarks : Time.marks .zero times = [.ofMillis 4294967295, .ofMillis 4294967295] := by
    decide
  have hdifference : Time.ofMillis 4294967295 - Time.ofMillis 4294967295 ≠
      Time.ofMillis (4294967300 - 4294967295) := by
    decide
  refine ⟨hsteady, hgtk, hwin32, .ofMillis 4294967295, ?_, ?_, hdifference⟩
  · exact (Gtk.Window.heardTimes_eq rfl hgtk).trans hmarks
  · exact (Win32.Window.heardTimes_eq rfl hwin32).trans hmarks

end WindowRelay

import WindowRelay.Proofs.Relay.Resting
import WindowRelay.Proofs.Scroll.Streams

/-!
# Plain scrolling — deltas and stops outside of gestures

What is scrolled outside of a gesture settles a lifted one first, passes the tracker and is told to
the listener.

- `Relay.run_delta`, `Relay.run_stop`: all that a delta and a stop do.
- `Effect.Streaming`: a delta was told, and no stop after it.
- `Relay.InStream`: the tracker knows whether there is a stream, as long as the line holds.
-/

namespace WindowRelay
namespace Relay

variable {K : Type} [Scalar K]

/-- A delta is told at its own time, or at a later one that was seen before. -/
theorem run_delta (p : Point K) (d : Delta K) (t : Time) (r : Relay K) :
    (scroll (.delta p d t)).run r =
      ⟨(), { r with
          arbiter := (Arbiter.settleLifted.run r.arbiter).state
          tracker := ⟨.continuous, some (max r.tracker.mark t)⟩ },
        (Arbiter.settleLifted.run r.arbiter).effects ++
          if r.arbiter.dispatcher.attached then
            [.callback (.scrollContinuous p d (max r.tracker.mark t))]
          else []⟩ := by
  have htrack : r.tracker.track (.delta p d t) =
      (⟨.continuous, some (max r.tracker.mark t)⟩,
        some ⟨p, d, .precise, max r.tracker.mark t⟩) := by
    rw [PhaseTracker.track, PhaseTracker.classify_delta _ rfl rfl, PhaseTracker.clamp_eq]
    rfl
  simp only [scroll, trackScroll, arbitrate, dispatch, Arbiter.dispatch, Dispatcher.scroll,
    Action.run_bind, Action.run_within, Action.run_get, Action.run_set, Action.run_pure, htrack,
    Dispatcher.run_notify, Arbiter.attached_settleLifted, List.nil_append]

/-- A stop is told in a stream only. -/
theorem run_stop (p : Point K) (t : Time) (r : Relay K) :
    (scroll (.stop p t)).run r =
      ⟨(), { r with
          arbiter := (Arbiter.settleLifted.run r.arbiter).state
          tracker := ⟨if r.tracker.phase = .continuous then .momentumEnd else .idle,
            some (max r.tracker.mark t)⟩ },
        (Arbiter.settleLifted.run r.arbiter).effects ++
          if r.tracker.phase = .continuous ∧ r.arbiter.dispatcher.attached = true then
            [.callback (.scrollStop (max r.tracker.mark t))]
          else []⟩ := by
  by_cases hstreams : r.tracker.phase = .continuous
  · have htrack : r.tracker.track (.stop p t) =
        (⟨.momentumEnd, some (max r.tracker.mark t)⟩,
          some ⟨p, Point.zero, .momentumStop, max r.tracker.mark t⟩) := by
      rw [PhaseTracker.track, PhaseTracker.classify_stop _ rfl hstreams, PhaseTracker.clamp_eq]
      rfl
    simp only [scroll, trackScroll, arbitrate, dispatch, Arbiter.dispatch, Dispatcher.scroll,
      Action.run_bind, Action.run_within, Action.run_get, Action.run_set, Action.run_pure, htrack,
      Dispatcher.run_notify, Arbiter.attached_settleLifted, List.nil_append, hstreams, if_true,
      true_and]
  · have htrack : r.tracker.track (.stop p t) = (⟨.idle, some (max r.tracker.mark t)⟩, none) := by
      rw [PhaseTracker.track, PhaseTracker.classify_dropped _ rfl hstreams, PhaseTracker.clamp_eq]
      rfl
    simp only [scroll, trackScroll, arbitrate, Action.run_bind, Action.run_within, Action.run_get,
      Action.run_set, Action.run_pure, htrack, List.append_nil, hstreams,
      if_false, false_and]

end Relay

/-! ## Streams -/

/-- A delta for the listener itself. -/
def Callback.flows {K : Type} : Callback K → Bool
  | .scrollContinuous _ _ _ => true
  | _ => false

def Callback.stops {K : Type} : Callback K → Bool
  | .scrollStop _ => true
  | _ => false

namespace Effect

variable {K : Type} {es log : List (Effect K)}

/-- A delta was told to the listener itself, and no stop after it. -/
def Streaming (log : List (Effect K)) : Prop :=
  Since (fun c => c.flows = true) (fun c => c.stops = true) (callbacks log)

theorem streaming_unscrolled (unscrolled : ∀ e ∈ es, e.isScroll = false) :
    Streaming (log ++ es) ↔ Streaming log := by
  rw [Streaming, callbacks_append]
  refine since_append_still fun c hc => ?_
  have hscroll : c.isScroll = false := unscrolled _ (mem_callbacks.1 hc)
  cases c <;> simp_all [Callback.isScroll, Callback.flows, Callback.stops]

theorem streaming_delta (p : Point K) (d : Delta K) (t : Time) :
    Streaming (log ++ [.callback (.scrollContinuous p d t)]) := by
  rw [Streaming, callbacks_append]
  exact since_snoc.2 (.inl rfl)

theorem not_streaming_stop (t : Time) : ¬ Streaming (log ++ [.callback (.scrollStop t)]) := by
  rw [Streaming, callbacks_append]
  intro h
  rcases since_snoc.1 h with hflows | ⟨hlasts, -⟩
  · cases hflows
  · exact hlasts rfl

end Effect

namespace Relay

variable {K : Type} {r : Relay K} {log : List (Effect K)}

/-- The tracker knows whether a stream is told. -/
def InStream (r : Relay K) (log : List (Effect K)) : Prop :=
  r.dispatcher.attached = true → (r.tracker.phase = .continuous ↔ Effect.Streaming log)

theorem InStream.rests {σ α : Type} {view : σ → Relay K} {m : Act K σ α} {s : σ}
    (hm : Act.Rests view m) (h : (view s).InStream log) :
    (view (m.run s).state).InStream (log ++ (m.run s).effects) := by
  intro hline
  rw [hm.tracker s hline, Effect.streaming_unscrolled (hm.unscrolled s)]
  exact h (hm.line s hline)

variable [Scalar K]

theorem inStream_delta (p : Point K) (d : Delta K) (t : Time) (r : Relay K)
    (log : List (Effect K)) :
    ((scroll (.delta p d t)).run r).state.InStream
      (log ++ ((scroll (.delta p d t)).run r).effects) := by
  intro hline
  rw [run_delta] at hline ⊢
  have hbefore : r.arbiter.dispatcher.attached = true :=
    (Arbiter.attached_settleLifted r.arbiter).symm.trans hline
  simp only [hbefore, if_true, ← List.append_assoc, Effect.streaming_delta]

theorem InStream.stop (h : r.InStream log) (p : Point K) (t : Time) :
    ((scroll (.stop p t)).run r).state.InStream
      (log ++ ((scroll (.stop p t)).run r).effects) := by
  intro hline
  rw [run_stop] at hline ⊢
  have hbefore : r.arbiter.dispatcher.attached = true :=
    (Arbiter.attached_settleLifted r.arbiter).symm.trans hline
  by_cases hstreams : r.tracker.phase = .continuous
  · simp [hstreams, hbefore, ← List.append_assoc, Effect.not_streaming_stop]
  · have hnone : ¬ Effect.Streaming log := fun hlog => hstreams ((h hbefore).2 hlog)
    simp [hstreams, hnone,
      Effect.streaming_unscrolled (Arbiter.unscrolled_settleLifted r.arbiter)]

end Relay
end WindowRelay

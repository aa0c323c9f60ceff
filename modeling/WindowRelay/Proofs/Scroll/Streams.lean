import WindowRelay.Proofs.Since
import WindowRelay.Proofs.Time
import WindowRelay.Scroll.Phase

/-!
# Streams — what the answers of a phase tracker mean

A tracker answers from the phase and the time that it keeps.  Its answers can be told without
either, from the calls that came before.

- `PhaseTracker.Streaming past`: a delta came after the last stop and the last reset.
- `PhaseTracker.IsLatest past time`: the latest time of all inputs, dropped ones among them.
- `PhaseTracker.Answers past c e`: after the calls `past`, the call `c` is due the answer `e`.
- `PhaseTracker.scroll_answers_follow_the_history`: every run gives the answers that are due.
-/

namespace WindowRelay

namespace PhaseTracker

variable {K ε : Type}

/-! ## The history of a tracker -/

namespace Call

/-- An input that is no stop and has a delta. -/
def flows : Call K → Bool
  | .track i => i.hasDelta && !i.isStop
  | .reset => false

/-- A stop, with whatever amount, or a reset. -/
def breaks : Call K → Bool
  | .track i => i.isStop
  | .reset => true

end Call

/-- A delta came after the last stop and the last reset, whatever steps came after it. -/
def Streaming (past : List (Call K)) : Prop :=
  Since (fun c => c.flows = true) (fun c => c.breaks = true) past

structure IsLatest (past : List (Call K)) (time : Time) : Prop where
  seen : ∃ i, .track i ∈ past ∧ i.timestamp = time
  bound : ∀ i, .track i ∈ past → i.timestamp ≤ time

/-- The answer that a call is due after the calls `past`. -/
inductive Answers [Scalar K] (past : List (Call K)) : Call K → Option (ScrollEvent K) → Prop
  | step {i : ScrollInput K} {d : ScrollDirection} {time : Time} (goesOn : i.isStop = false)
      (amount : i.amount = .step d) (latest : IsLatest (past ++ [.track i]) time) :
      Answers past (.track i) (some ⟨i.position, d.unitDelta, .discrete, time⟩)
  | delta {i : ScrollInput K} {d : Delta K} {time : Time} (goesOn : i.isStop = false)
      (amount : i.amount = .delta d) (latest : IsLatest (past ++ [.track i]) time) :
      Answers past (.track i) (some ⟨i.position, d, .precise, time⟩)
  | stop {i : ScrollInput K} {time : Time} (stops : i.isStop = true) (streaming : Streaming past)
      (latest : IsLatest (past ++ [.track i]) time) :
      Answers past (.track i) (some ⟨i.position, Point.zero, .momentumStop, time⟩)
  | dropped {i : ScrollInput K} (stops : i.isStop = true) (idle : ¬ Streaming past) :
      Answers past (.track i) none
  | reset : Answers past .reset none

/-- Each of the calls has the answer that it is due after the calls before it. -/
inductive Answered [Scalar K] :
    List (Call K) → List (Call K) → List (Option (ScrollEvent K)) → Prop
  | nil (past : List (Call K)) : Answered past [] []
  | cons {past calls : List (Call K)} {c : Call K} {e : Option (ScrollEvent K)}
      {answers : List (Option (ScrollEvent K))} (first : Answers past c e)
      (rest : Answered (past ++ [c]) calls answers) : Answered past (c :: calls) (e :: answers)

section Streaming

variable {past : List (Call K)} {i : ScrollInput K}

theorem not_streaming_nil : ¬ Streaming ([] : List (Call K)) :=
  not_since_nil

theorem not_streaming_stop (stops : i.isStop = true) : ¬ Streaming (past ++ [.track i]) := by
  rw [Streaming, since_snoc]
  simp [Call.flows, Call.breaks, stops]

theorem streaming_step {d : ScrollDirection} (goesOn : i.isStop = false)
    (amount : i.amount = .step d) : Streaming (past ++ [.track i]) ↔ Streaming past := by
  rw [Streaming, since_snoc]
  simp [Call.flows, Call.breaks, ScrollInput.hasDelta, goesOn, amount, Streaming]

theorem streaming_delta {d : Delta K} (goesOn : i.isStop = false) (amount : i.amount = .delta d) :
    Streaming (past ++ [.track i]) := by
  rw [Streaming, since_snoc]
  simp [Call.flows, ScrollInput.hasDelta, goesOn, amount]

theorem not_streaming_reset : ¬ Streaming (past ++ [.reset]) := by
  rw [Streaming, since_snoc]
  simp [Call.flows, Call.breaks]

end Streaming

/-! ## The rows of the table of phases -/

section Rows

variable [Scalar K] {phase : ScrollPhase} {i : ScrollInput K} (time : Time)

theorem classify_stop (stops : i.isStop = true) (h : phase = .continuous) :
    classify phase i time =
      (.momentumEnd, some ⟨i.position, Point.zero, .momentumStop, time⟩) := by
  simp [classify, stops, h, ScrollPhase.settled, ScrollClass.classify]

theorem classify_dropped (stops : i.isStop = true) (h : phase ≠ .continuous) :
    classify phase i time = (.idle, none) := by
  cases phase with
  | continuous => exact absurd rfl h
  | _ => simp [classify, stops, ScrollPhase.settled]

theorem classify_step {d : ScrollDirection} (goesOn : i.isStop = false)
    (amount : i.amount = .step d) :
    classify phase i time =
      (if phase = .continuous then .continuous else .discrete,
        some ⟨i.position, d.unitDelta, .discrete, time⟩) := by
  cases phase <;>
    simp [classify, goesOn, amount, ScrollPhase.settled, ScrollInput.hasDelta,
      ScrollClass.classify]

theorem classify_delta {d : Delta K} (goesOn : i.isStop = false) (amount : i.amount = .delta d) :
    classify phase i time = (.continuous, some ⟨i.position, d, .precise, time⟩) := by
  simp [classify, goesOn, amount, ScrollInput.hasDelta, ScrollClass.classify]

end Rows

/-- The latest time that a tracker has seen; none is the origin. -/
def mark (t : PhaseTracker) : Time :=
  t.last.getD .zero

theorem clamp_eq (t : PhaseTracker) (time : Time) : t.clamp time = max t.mark time := by
  cases hlast : t.last with
  | some last =>
      simp [clamp, mark, hlast]
  | none =>
      -- No time is earlier than the origin.
      have horigin : max .zero time = time := Time.max_eq_right (Nat.zero_le _)
      simp [clamp, mark, hlast, horigin]

/-- The events among the answers. -/
def forwarded (answers : List (Option (ScrollEvent K))) : List (ScrollEvent K) :=
  answers.filterMap id

/-! ## What a tracker knows of its history -/

structure Knows (t : PhaseTracker) (past : List (Call K)) : Prop where
  phase : t.phase = .continuous ↔ Streaming past
  fresh : t.last = none → ∀ i, .track i ∉ past
  last : ∀ time, t.last = some time → IsLatest past time

namespace Knows

variable {t : PhaseTracker} {past : List (Call K)}

theorem start : Knows start ([] : List (Call K)) where
  phase := ⟨fun h => (by cases h), fun h => absurd h not_streaming_nil⟩
  fresh _ i := List.not_mem_nil
  last time h := by cases h

/-- The time that a tracker gives to an input is the latest of all so far. -/
theorem latest (h : Knows t past) (i : ScrollInput K) :
    IsLatest (past ++ [.track i]) (t.clamp i.timestamp) := by
  cases hlast : t.last with
  | none =>
      have hclamp : t.clamp i.timestamp = i.timestamp := by
        simp [clamp, hlast]
      rw [hclamp]
      refine ⟨⟨i, by simp, rfl⟩, fun j hj => ?_⟩
      have hij : j = i := by
        simpa [h.fresh hlast j] using hj
      rw [hij]
      exact Nat.le_refl i.timestamp.nanoseconds
  | some last =>
      have hclamp : t.clamp i.timestamp = max last i.timestamp := by
        simp [clamp, hlast]
      have hbefore := h.last last hlast
      rw [hclamp]
      refine ⟨?_, fun j hj => ?_⟩
      · rcases Time.max_eq_or last i.timestamp with hmax | hmax
        · rcases hbefore.seen with ⟨j, hj, htime⟩
          exact ⟨j, List.mem_append_left _ hj, by rw [hmax, htime]⟩
        · exact ⟨i, by simp, hmax.symm⟩
      · rcases List.mem_append.1 hj with hj | hj
        · exact Time.le_trans (hbefore.bound j hj) (Time.le_max_left _ _)
        · cases List.mem_singleton.1 hj
          exact Time.le_max_right _ _

theorem reset (h : Knows t past) : Knows t.reset (past ++ [.reset]) where
  phase := ⟨fun hphase => (by cases hphase), fun hstream => absurd hstream not_streaming_reset⟩
  fresh hnone i hi := by
    rcases List.mem_append.1 hi with hi | hi
    · exact h.fresh hnone i hi
    · cases List.mem_singleton.1 hi
  last time htime := by
    have hlatest := h.last time htime
    rcases hlatest.seen with ⟨i, hi, hseen⟩
    refine ⟨⟨i, List.mem_append_left _ hi, hseen⟩, fun j hj => ?_⟩
    rcases List.mem_append.1 hj with hj | hj
    · exact hlatest.bound j hj
    · cases List.mem_singleton.1 hj

variable [Scalar K]

theorem track (h : Knows t past) (i : ScrollInput K) :
    Knows (t.track i).1 (past ++ [.track i]) ∧ Answers past (.track i) (t.track i).2 := by
  have hlatest := h.latest i
  -- Whatever becomes of the phase, the time that is kept is the one just given.
  have hknows (phase : ScrollPhase)
      (hphase : phase = .continuous ↔ Streaming (past ++ [.track i])) :
      Knows ⟨phase, some (t.clamp i.timestamp)⟩ (past ++ [.track i]) := by
    refine ⟨hphase, fun hnone => (by cases hnone), fun time htime => ?_⟩
    cases htime
    exact hlatest
  cases hstop : i.isStop with
  | true =>
      by_cases hphase : t.phase = .continuous
      · rw [PhaseTracker.track, classify_stop _ hstop hphase]
        exact ⟨hknows _ (by simp [not_streaming_stop hstop]),
          .stop hstop (h.phase.1 hphase) hlatest⟩
      · rw [PhaseTracker.track, classify_dropped _ hstop hphase]
        exact ⟨hknows _ (by simp [not_streaming_stop hstop]),
          .dropped hstop (mt h.phase.2 hphase)⟩
  | false =>
      cases hamount : i.amount with
      | step d =>
          rw [PhaseTracker.track, classify_step _ hstop hamount]
          refine ⟨hknows _ ?_, .step hstop hamount hlatest⟩
          -- A step neither begins nor ends a stream.
          rw [streaming_step hstop hamount, ← h.phase]
          split <;> simp_all
      | delta d =>
          rw [PhaseTracker.track, classify_delta _ hstop hamount]
          exact ⟨hknows _ (by simp [streaming_delta hstop hamount]),
            .delta hstop hamount hlatest⟩

theorem step (h : Knows t past) (c : Call K) :
    Knows ((step c : Action ε PhaseTracker _).run t).state (past ++ [c]) ∧
      Answers past c ((step c : Action ε PhaseTracker _).run t).value := by
  cases c with
  | track i => exact h.track i
  | reset => exact ⟨h.reset, .reset⟩

theorem replay (h : Knows t past) (calls : List (Call K)) :
    Answered past calls
      ((Action.replay PhaseTracker.step calls : Action ε PhaseTracker _).run t).value := by
  induction calls generalizing t past with
  | nil =>
      exact .nil past
  | cons c calls ih =>
      rw [Action.run_replay_cons]
      rcases h.step (ε := ε) c with ⟨hnext, hanswer⟩
      exact .cons hanswer (ih hnext)

end Knows

/-! ## What follows from the answers -/

theorem Answers.latest [Scalar K] {past : List (Call K)} {c : Call K} {e : ScrollEvent K}
    (h : Answers past c (some e)) : IsLatest (past ++ [c]) e.timestamp := by
  cases h with
  | step goesOn amount latest => exact latest
  | delta goesOn amount latest => exact latest
  | stop stops streaming latest => exact latest

namespace Answered

variable [Scalar K] {past calls : List (Call K)} {answers : List (Option (ScrollEvent K))}

/-- What is forwarded is no earlier than any input seen before. -/
theorem le_timestamp (h : Answered past calls answers) {i : ScrollInput K}
    (hi : .track i ∈ past) : ∀ e ∈ forwarded answers, i.timestamp ≤ e.timestamp := by
  induction h with
  | nil past =>
      intro e he
      cases he
  | @cons past calls c answer answers first rest ih =>
      have hnext := List.mem_append_left [c] hi
      cases answer with
      | none =>
          exact ih hnext
      | some e =>
          intro e' he'
          rcases List.mem_cons.1 he' with rfl | he'
          · exact first.latest.bound i hnext
          · exact ih hnext e' he'

theorem timestamps (h : Answered past calls answers) :
    (forwarded answers).Pairwise fun e e' => e.timestamp ≤ e'.timestamp := by
  induction h with
  | nil past =>
      exact .nil
  | @cons past calls c answer answers first rest ih =>
      cases answer with
      | none =>
          exact ih
      | some e =>
          -- The time of the event is that of an input, which all that follows has seen.
          rcases first.latest.seen with ⟨i, hi, htime⟩
          refine .cons (fun e' he' => ?_) ih
          rw [← htime]
          exact rest.le_timestamp hi e' he'

/-- Outside a stream a delta is forwarded before the next stop is. -/
theorem delta_before_stop (h : Answered past calls answers) (idle : ¬ Streaming past)
    {before after : List (ScrollEvent K)} {e : ScrollEvent K}
    (hevents : forwarded answers = before ++ e :: after) (hstop : e.kind = .momentumStop) :
    ∃ m ∈ before, m.kind = .precise := by
  induction h generalizing before with
  | nil past =>
      cases before <;> cases hevents
  | @cons past calls c answer answers first rest ih =>
      cases first with
      | step goesOn amount latest =>
          cases before with
          | nil =>
              cases hevents
              cases hstop
          | cons _ before =>
              have hrest := (List.cons.inj hevents).2
              rcases ih (mt (streaming_step goesOn amount).1 idle) hrest with ⟨m, hm, hprecise⟩
              exact ⟨m, List.mem_cons_of_mem _ hm, hprecise⟩
      | delta goesOn amount latest =>
          cases before with
          | nil =>
              cases hevents
              cases hstop
          | cons m before =>
              have hm := (List.cons.inj hevents).1
              exact ⟨m, List.mem_cons_self, by rw [← hm]⟩
      | stop stops streaming latest =>
          exact absurd streaming idle
      | dropped stops _ =>
          exact ih (not_streaming_stop stops) hevents
      | reset =>
          exact ih not_streaming_reset hevents

theorem delta_between_stops (h : Answered past calls answers)
    {before between after : List (ScrollEvent K)} {e e' : ScrollEvent K}
    (hevents : forwarded answers = before ++ e :: (between ++ e' :: after))
    (hstop : e.kind = .momentumStop) (hstop' : e'.kind = .momentumStop) :
    ∃ m ∈ between, m.kind = .precise := by
  induction h generalizing before with
  | nil past =>
      cases before <;> cases hevents
  | @cons past calls c answer answers first rest ih =>
      cases answer with
      | none =>
          exact ih hevents
      | some m =>
          cases before with
          | cons _ before =>
              exact ih (List.cons.inj hevents).2
          | nil =>
              rcases List.cons.inj hevents with ⟨rfl, hrest⟩
              -- The first of the two stops is the answer at hand, and ends the stream.
              have hidle : ¬ Streaming (past ++ [c]) := by
                cases first with
                | step goesOn amount latest => cases hstop
                | delta goesOn amount latest => cases hstop
                | stop stops streaming latest => exact not_streaming_stop stops
              exact rest.delta_before_stop hidle hrest hstop'

end Answered

/-- A tracker answers each call as its history wants it: a step is forwarded as a unit step, a delta
as it is, a stop if and only if a stream was in progress; and each with the latest time of all
inputs so far.  So the times of the events never decrease, and between two stops there is a
delta. -/
theorem scroll_answers_follow_the_history [Scalar K] (calls : List (Call K)) :
    let run : Outcome ε PhaseTracker _ := (Action.replay step calls).run start
    Answered [] calls run.value ∧
      ((forwarded run.value).Pairwise fun e e' => e.timestamp ≤ e'.timestamp) ∧
      ∀ before e between e' after,
        forwarded run.value = before ++ e :: (between ++ e' :: after) →
        e.kind = .momentumStop → e'.kind = .momentumStop →
        ∃ m ∈ between, m.kind = .precise := by
  intro run
  have hanswered : Answered [] calls run.value := Knows.start.replay calls
  refine ⟨hanswered, hanswered.timestamps, ?_⟩
  intro before e between e' after hevents hstop hstop'
  exact hanswered.delta_between_stops hevents hstop hstop'

end PhaseTracker

end WindowRelay

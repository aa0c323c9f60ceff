import WindowRelay.Proofs.Timer.Firing

/-!
# Waking — when a queue asks to be polled

A queue asks to be woken at its earliest deadline.  No deadline is before its start, so by then the
task it belongs to may run: a poll at that time is neither late for any task nor idle.

- `TimerQueue.wake`, `TimerQueue.rounds`: sleep until the suggested time, poll, and so on.
- `Custody.Punctual`: turns in which no poll is later than the suggestion it finds.
- `Custody.firings`: what the polls of some turns fire, and when.
- `TimerQueue.wakeups_meet_every_deadline`: nothing is fired outside its window, and the rounds end.

Serial numbers play no part here, so there is no limit on the number of tasks.
-/

namespace WindowRelay

/-! ## Fired invocations -/

namespace TimerEffect

variable {ν κ : Type}

def fired? : TimerEffect ν → Option (Invocation ν)
  | .settled .fired i => some i
  | _ => none

/-- The invocations that were fired, in order. -/
def fired (es : List (TimerEffect ν)) : List (Invocation ν) :=
  es.filterMap fired?

theorem fired_append (es fs : List (TimerEffect ν)) : fired (es ++ fs) = fired es ++ fired fs :=
  List.filterMap_append

theorem fired_map_fired (f : κ → Invocation ν) (cs : List κ) :
    fired (cs.map fun c => .settled .fired (f c)) = cs.map f := by
  simp [fired, fired?, List.filterMap_map, Function.comp_def]

theorem fired_map_cancelled (f : κ → Invocation ν) (cs : List κ) :
    fired (cs.map fun c => .settled .cancelled (f c)) = [] := by
  simp [fired, fired?, List.filterMap_map, Function.comp_def]

end TimerEffect

namespace TimerQueue

variable {ν : Type} {q : TimerQueue ν} {t : TimerTask ν} {now w : Time}

/-! ## The suggested time -/

theorem nextWakeup_eq_none_iff : q.nextWakeup = none ↔ q.tasks = [] := by
  rw [nextWakeup, List.min?_eq_none_iff, List.map_eq_nil_iff]

/-- The suggestion is the deadline of a task, and no other deadline is before it. -/
theorem nextWakeup_eq_some_iff :
    q.nextWakeup = some w ↔
      (∃ t ∈ q.tasks, t.deadline = w) ∧ ∀ t ∈ q.tasks, w ≤ t.deadline := by
  rw [nextWakeup, List.min?_eq_some_iff, List.mem_map, List.forall_mem_map]

/-- A poll that is not later than the suggestion is in the window of every task that it fires. -/
theorem runnable_in_window (punctual : ∀ w ∈ q.nextWakeup, now ≤ w) (ht : t ∈ q.runnable now) :
    t.start ≤ now ∧ now ≤ t.deadline := by
  rcases mem_runnable.1 ht with ⟨hpending, hstart⟩
  refine ⟨hstart, ?_⟩
  cases hnext : q.nextWakeup with
  | none =>
      rw [nextWakeup_eq_none_iff.1 hnext] at hpending
      cases hpending
  | some w =>
      exact Time.le_trans (punctual w hnext) ((nextWakeup_eq_some_iff.1 hnext).2 t hpending)

/-- Every pending task may run by its deadline. -/
def Timely (q : TimerQueue ν) : Prop :=
  ∀ t ∈ q.tasks, t.start ≤ t.deadline

theorem Timely.withoutRunnable (timely : q.Timely) (now : Time) :
    (q.withoutRunnable now).Timely := by
  intro t ht
  exact timely t (mem_tasks_withoutRunnable.1 ht).1

/-- The task whose deadline is suggested may run then. -/
theorem Timely.exists_runnable (timely : q.Timely) (hw : q.nextWakeup = some w) :
    ∃ t ∈ q.runnable w, t.deadline = w := by
  rcases (nextWakeup_eq_some_iff.1 hw).1 with ⟨t, ht, rfl⟩
  exact ⟨t, mem_runnable.2 ⟨ht, timely t ht⟩, rfl⟩

/-! ## Rounds -/

/-- Sleep until the suggested time and poll then.  Answers how many tasks were fired. -/
def wake : Op ν Nat := do
  let q ← get
  match q.nextWakeup with
  | none => pure 0
  | some w => poll w

/-- A number of rounds, one after the other.  Answers how many tasks were fired in all. -/
def rounds : Nat → Op ν Nat
  | 0 => pure 0
  | n + 1 => do
      let fired ← wake
      let more ← rounds n
      pure (fired + more)

theorem run_wake_idle (h : q.tasks = []) : wake.run q = ⟨0, q, []⟩ := by
  simp [wake, nextWakeup_eq_none_iff.2 h]

theorem run_wake (hw : q.nextWakeup = some w) : wake.run q = (poll w).run q := by
  simp [wake, hw]

/-- A task is either runnable or left. -/
theorem length_runnable_add (now : Time) (q : TimerQueue ν) :
    (q.runnable now).length + (q.withoutRunnable now).length = q.length := by
  have hsplit := List.length_eq_length_filter_add (l := q.tasks) (TimerTask.isRunnable now)
  rw [length, length, (runnable_perm now).length_eq, tasks_withoutRunnable, ← hsplit]

/-- A round fires a task as long as there is one, so there are no more rounds than tasks. -/
theorem rounds_empty (timely : q.Timely) {n : Nat} (h : q.length ≤ n) :
    ((rounds n).run q).value = q.length ∧ ((rounds n).run q).state.tasks = [] := by
  induction n generalizing q with
  | zero =>
      have hnone : q.length = 0 := Nat.le_zero.1 h
      exact ⟨hnone.symm, List.length_eq_zero_iff.1 hnone⟩
  | succ n ih =>
      simp only [rounds, Action.run_bind, Action.run_pure]
      cases hnext : q.nextWakeup with
      | none =>
          have hnone := nextWakeup_eq_none_iff.1 hnext
          have hlength : q.length = 0 := by
            rw [length, hnone, List.length_nil]
          rw [run_wake_idle hnone, Nat.zero_add]
          exact ih timely (hlength ▸ Nat.zero_le n)
      | some w =>
          rcases timely.exists_runnable hnext with ⟨t, ht, -⟩
          -- The tasks that are left are fewer by those that were fired, and there is one of these.
          have hfires : 0 < (q.runnable w).length := List.length_pos_of_mem ht
          have hcount := length_runnable_add w q
          rw [run_wake hnext, run_poll]
          rcases ih (timely.withoutRunnable w) (by omega) with ⟨hvalue, hempty⟩
          exact ⟨by rw [hvalue, hcount], hempty⟩

/-! ## Turns -/

namespace Turn

def polledAt? : Turn ν → Option Time
  | .call (.poll now) => some now
  | _ => none

/-- Whether a turn takes tasks out of the queue to be settled in another way than by a poll. -/
def takesOver : Turn ν → Bool
  | .takeOver _ => true
  | .call (.drain _ _) => true
  | _ => false

end Turn

/-- A task that a poll fired, and the instant of the poll. -/
structure Firing (ν : Type) where
  task : TimerTask ν
  instant : Time
  deriving DecidableEq, Repr

namespace Custody

variable {k : Custody ν} {hist : History ν}

/-- What a turn fires, if it is a poll. -/
def firedBy (k : Custody ν) : Turn ν → List (Firing ν)
  | .call (.poll now) =>
      if (Call.poll now : Call ν).onClock then (k.queue.runnable now).map (⟨·, now⟩) else []
  | _ => []

/-- What the polls of some turns fire, in order. -/
def firings : List (Turn ν) → Custody ν → List (Firing ν)
  | [], _ => []
  | t :: turns, k => firedBy k t ++ firings turns ((turn t).run k).state

/-- No poll comes later than the time that the queue suggests just before. -/
def Punctual : List (Turn ν) → Custody ν → Prop
  | [], _ => True
  | t :: turns, k =>
      (∀ now ∈ t.polledAt?, ∀ w ∈ k.queue.nextWakeup, now ≤ w) ∧
        Punctual turns ((turn t).run k).state

instance decidablePunctual :
    (turns : List (Turn ν)) → (k : Custody ν) → Decidable (Punctual turns k)
  | [], _ => isTrue trivial
  | t :: turns, k =>
      have := decidablePunctual turns ((turn t).run k).state
      inferInstanceAs (Decidable (_ ∧ _))

theorem mem_firedBy {t : Turn ν} {f : Firing ν} (h : f ∈ firedBy k t) :
    t.polledAt? = some f.instant ∧ f.task ∈ k.queue.runnable f.instant := by
  unfold firedBy at h
  split at h
  · split at h
    · rcases List.mem_map.1 h with ⟨u, hu, rfl⟩
      exact ⟨rfl, hu⟩
    · cases h
  · cases h

/-- In a run without a late poll every task is fired in its window. -/
theorem firings_in_window {turns : List (Turn ν)} (punctual : Punctual turns k) :
    ∀ f ∈ firings turns k, f.task.start ≤ f.instant ∧ f.instant ≤ f.task.deadline := by
  induction turns generalizing k with
  | nil =>
      intro f hf
      cases hf
  | cons t turns ih =>
      intro f hf
      rcases List.mem_append.1 hf with hnow | hlater
      · rcases mem_firedBy hnow with ⟨hpoll, hrunnable⟩
        exact runnable_in_window (punctual.1 f.instant hpoll) hrunnable
      · exact ih punctual.2 f hlater

/-! ## What the effects tell -/

/-- A call whose instants the clock does not have is not carried out. -/
theorem run_call_refused {c : Call ν} (refused : c.onClock = false) :
    (turn (.call c)).run k = ⟨.error .clockOverflow, k, []⟩ := by
  simp [turn, onQueue, step, refused]

theorem fired_request {c : Call ν} {r : Request ν} (asks : c.request? = some r)
    (onClock : c.onClock = true) :
    TimerEffect.fired ((turn (.call c)).run k).effects = [] := by
  by_cases hfull : k.queue.length = capacity
  · have hrun := run_insert_full r.start r.stop r.invocation hfull
    rw [run_call onClock (by rw [perform_request asks, Action.run_map, hrun])]
    rfl
  · rcases run_insert_ok r.start r.stop r.invocation hfull with ⟨slot, -, hrun⟩
    rw [run_call onClock (by rw [perform_request asks, Action.run_map, hrun])]
    rfl

/-- As long as nothing is in hand only polls fire. -/
theorem fired_turn {t : Turn ν} (plain : t.takesOver = false) (empty : k.inHand = []) :
    TimerEffect.fired ((turn t).run k).effects = (firedBy k t).map (·.task.invocation) ∧
      ((turn t).run k).state.inHand = [] := by
  cases t with
  | takeOver now =>
      cases plain
  | settle index how =>
      simp [turn, empty, firedBy, TimerEffect.fired]
  | call c =>
      refine ⟨?_, empty⟩
      cases honClock : c.onClock with
      | false =>
          rw [run_call_refused honClock]
          cases c <;> simp [firedBy, honClock, TimerEffect.fired]
      | true =>
          cases c with
          | insert start stop i =>
              exact fired_request rfl honClock
          | insertAfter now begins ends i =>
              exact fired_request rfl honClock
          | cancel h =>
              cases hfind : k.queue.find? h with
              | none =>
                  rw [run_call rfl (perform_cancel_none hfind)]
                  rfl
              | some u =>
                  rw [run_call rfl (perform_cancel_some hfind)]
                  rfl
          | poll now =>
              rw [run_call honClock (perform_poll now), TimerEffect.fired_map_fired]
              simp [firedBy, honClock]
          | drain now how =>
              cases plain
          | clear =>
              rw [run_call rfl perform_clear, TimerEffect.fired_map_cancelled]
              rfl

theorem fired_replay {turns : List (Turn ν)} (plain : ∀ t ∈ turns, t.takesOver = false)
    (empty : k.inHand = []) :
    TimerEffect.fired ((Action.replay turn turns).run k).effects =
      (firings turns k).map (·.task.invocation) := by
  induction turns generalizing k with
  | nil =>
      rfl
  | cons t turns ih =>
      rcases fired_turn (plain t List.mem_cons_self) empty with ⟨hfired, hempty⟩
      have hrest := ih (fun u hu => plain u (List.mem_cons_of_mem t hu)) hempty
      rw [Action.run_replay_cons, TimerEffect.fired_append, hfired, hrest, firings,
        List.map_append]

/-! ## What the history tells -/

/-- Every pending task was inserted by a turn of the history. -/
structure Recorded (hist : History ν) (k : Custody ν) : Prop where
  seated : k.queue.Seated
  tasks : ∀ t ∈ k.queue.tasks, t ∈ inserted hist

namespace Recorded

theorem start : Recorded ([] : History ν) start where
  seated := seated_emptied empty
  tasks t ht := by
    have hnone : (empty : TimerQueue ν).tasks = [] := tasks_emptied empty
    rw [Custody.start, hnone] at ht
    cases ht

theorem snoc (h : Recorded hist k) (t : Turn ν) :
    Recorded (hist ++ [(t, ((turn t).run k).value)]) ((turn t).run k).state := by
  cases honClock : t.onClock with
  | true =>
      have hturned := turned t honClock h.seated
      refine ⟨hturned.seated, fun u hu => ?_⟩
      rw [inserted_snoc]
      rcases List.mem_append.1 (hturned.tasks.mem_iff.1 hu) with hkept | hadded
      · exact List.mem_append_left _ (h.tasks u (List.mem_of_mem_filter hkept))
      · exact List.mem_append_right _ hadded
  | false =>
      -- Only a call can name an instant that the clock does not have.
      cases t with
      | call c =>
          rw [run_call_refused honClock]
          refine ⟨h.seated, fun u hu => ?_⟩
          rw [inserted_snoc]
          exact List.mem_append_left _ (h.tasks u hu)
      | _ =>
          cases honClock

end Recorded

theorem inserted_append (hist hist' : History ν) :
    inserted (hist ++ hist') = inserted hist ++ inserted hist' :=
  List.filterMap_append

/-- What is fired was inserted before. -/
theorem firings_inserted {turns : List (Turn ν)} (h : Recorded hist k) :
    ∀ f ∈ firings turns k,
      f.task ∈ inserted (hist ++ turns.zip ((Action.replay turn turns).run k).value) := by
  -- Each turn adds its entry to the history, so the history is not fixed in the induction.
  induction turns generalizing hist k with
  | nil =>
      intro f hf
      cases hf
  | cons t turns ih =>
      intro f hf
      rcases List.mem_append.1 hf with hnow | hlater
      · have hpending := (mem_runnable.1 (mem_firedBy hnow).2).1
        rw [inserted_append]
        exact List.mem_append_left _ (h.tasks f.task hpending)
      · have hmem := ih (h.snoc t) f hlater
        rwa [List.append_assoc] at hmem

theorem recorded_replay {turns : List (Turn ν)} (h : Recorded hist k) :
    Recorded (hist ++ turns.zip ((Action.replay turn turns).run k).value)
      ((Action.replay turn turns).run k).state := by
  induction turns generalizing hist k with
  | nil =>
      simpa using h
  | cons t turns ih =>
      have hrest := ih (h.snoc t)
      rwa [List.append_assoc] at hrest

end Custody

open Custody

/-- A task that was inserted has the window of the request that it was inserted for. -/
theorem exists_request_of_inserted {hist : History ν} (h : t ∈ inserted hist) :
    ∃ turn r, (turn, .ok (.scheduled (.ok t.handle))) ∈ hist ∧ turn.request? = some r ∧
      t = r.task t.handle := by
  rcases List.mem_filterMap.1 h with ⟨⟨turn, reply⟩, hentry, htask⟩
  rcases Option.bind_eq_some_iff.1 htask with ⟨r, hrequest, hhandle⟩
  rcases Option.map_eq_some_iff.1 hhandle with ⟨handle, hreply, rfl⟩
  have hscheduled : reply = .ok (.scheduled (.ok handle)) := by
    unfold handle? at hreply
    split at hreply <;> cases hreply
    assumption
  exact ⟨turn, r, hscheduled ▸ hentry, hrequest, rfl⟩

theorem timely_of_recorded {hist : History ν} {k : Custody ν} (h : Recorded hist k) :
    k.queue.Timely := by
  intro t ht
  rcases exists_request_of_inserted (h.tasks t ht) with ⟨turn, r, -, -, htask⟩
  rw [htask]
  exact Time.le_max_right r.stop r.start

/-! ## The main statement -/

/-- After any turns, the queue suggests a time if and only if it holds a task.  A poll at that time
fires a task, and one that comes later misses a deadline.  So rounds of sleeping and polling empty
the queue, and there are no more of them than tasks.  If no poll of the turns came later than the
time suggested at that moment, each task was fired in the window of the request that it was inserted
for, which ends at its start if it would end before.  As long as tasks are taken out by polls and
cancels only, no invocation is fired but those of the firings. -/
theorem wakeups_meet_every_deadline (turns : List (Turn ν)) :
    let hist := history turns
    let q := (life turns).state.queue
    (Punctual turns start →
      ∀ f ∈ firings turns start, ∃ turn r,
        (turn, .ok (.scheduled (.ok f.task.handle))) ∈ hist ∧ turn.request? = some r ∧
          f.task = r.task f.task.handle ∧
          r.start ≤ f.instant ∧ f.instant ≤ max r.stop r.start) ∧
      ((∀ t ∈ turns, t.takesOver = false) →
        TimerEffect.fired (life turns).effects =
          (firings turns start).map (·.task.invocation)) ∧
      (q.nextWakeup = none ↔ q.isEmpty = true) ∧
      (∀ w, q.nextWakeup = some w →
        let polled := (poll w).run q
        ∃ t ∈ q.tasks, t.deadline = w ∧ .settled .fired t.invocation ∈ polled.effects ∧
          t ∉ polled.state.tasks) ∧
      ((rounds q.length).run q).value = q.length ∧
      ((rounds q.length).run q).state.isEmpty = true ∧
      ∀ w late, q.nextWakeup = some w → w < late → ∃ t ∈ q.tasks, t.deadline < late := by
  intro hist q
  have hrecorded : Recorded hist (life turns).state := recorded_replay Recorded.start
  have htimely : q.Timely := timely_of_recorded hrecorded
  rcases rounds_empty htimely (Nat.le_refl q.length) with ⟨hvalue, hempty⟩
  refine ⟨fun hpunctual f hf => ?_, fun hplain => fired_replay hplain rfl, ?_, ?_, hvalue,
    List.isEmpty_iff.2 hempty, ?_⟩
  · rcases firings_in_window hpunctual f hf with ⟨hstart, hdeadline⟩
    rcases exists_request_of_inserted (firings_inserted Recorded.start f hf) with
      ⟨turn, r, hentry, hrequest, htask⟩
    rw [htask] at hstart hdeadline
    exact ⟨turn, r, hentry, hrequest, htask, hstart, hdeadline⟩
  · rw [nextWakeup_eq_none_iff, isEmpty, List.isEmpty_iff]
  · intro w hw polled
    have hpolled : polled = _ := run_poll w
    rcases htimely.exists_runnable hw with ⟨t, ht, hdeadline⟩
    rcases mem_runnable.1 ht with ⟨hpending, hstart⟩
    rw [hpolled]
    refine ⟨t, hpending, hdeadline, List.mem_map_of_mem ht, fun hleft => ?_⟩
    exact Time.not_le.2 (mem_tasks_withoutRunnable.1 hleft).2 hstart
  · intro w late hw hlate
    rcases (nextWakeup_eq_some_iff.1 hw).1 with ⟨t, ht, rfl⟩
    exact ⟨t, ht, hlate⟩

/-- The first window would end before it starts, so it ends there, and a poll at that time is in
time for the task.  The other task is left for a round of its own. -/
theorem wakeups_meet_a_turned_window :
    let turns : List (Turn Nat) :=
      [.call (.insert ⟨3⟩ ⟨1⟩ ⟨10, true⟩), .call (.insert ⟨5⟩ ⟨9⟩ ⟨11, false⟩), .call (.poll ⟨3⟩)]
    let turned : TimerTask Nat := ⟨⟨0, ⟨0, by decide⟩⟩, ⟨3⟩, ⟨3⟩, ⟨10, true⟩⟩
    let q := (life turns).state.queue
    Punctual turns start ∧ ⟨turned, ⟨3⟩⟩ ∈ firings turns start ∧
      turned.start ≤ ⟨3⟩ ∧ ⟨3⟩ ≤ turned.deadline ∧
      TimerEffect.fired (life turns).effects =
        (firings turns start).map (·.task.invocation) ∧
      ((rounds q.length).run q).state.isEmpty = true := by
  intro turns turned q
  have hpunctual : Punctual turns start := by decide +kernel
  have hplain : ∀ t ∈ turns, t.takesOver = false := by decide
  have hfiring : ⟨turned, ⟨3⟩⟩ ∈ firings turns start := by
    let k := ((Action.replay turn (turns.take 2)).run start).state
    have hrunnable : turned ∈ k.queue.runnable ⟨3⟩ := mem_runnable.2 (by decide +kernel)
    exact List.mem_append_left [] (List.mem_map_of_mem hrunnable)
  rcases wakeups_meet_every_deadline turns with ⟨hwindows, hfired, -, -, -, hempty, -⟩
  rcases hwindows hpunctual _ hfiring with ⟨t, r, -, -, htask, hstart, hdeadline⟩
  have hwindow : turned = r.task turned.handle := htask
  rw [hwindow]
  exact ⟨hpunctual, hwindow ▸ hfiring, hstart, hdeadline, hfired hplain, hempty⟩

end TimerQueue
end WindowRelay

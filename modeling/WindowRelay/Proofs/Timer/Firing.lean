import WindowRelay.Proofs.Time
import WindowRelay.Proofs.Timer.Accounts

/-!
# Firing — what a poll fires, and in which order

A poll takes the runnable tasks out of their slots, in slot order, and sorts them by start.  Slots
are filled as they become free, so among tasks of one start only the serial numbers tell which was
inserted first.  As long as these have not started over, the order is that of the history.

- `TimerTask.runsBefore`: a total order by start and serial number.
- `TimerQueue.runnable_append`: what is runnable later, taken out in two steps.
- `TimerQueue.polls_fire_in_order`: what a poll fires, told by the turns so far.
-/

namespace WindowRelay

/-! ## The order of running -/

namespace TimerTask

variable {ν : Type} {a b c : TimerTask ν} {now later : Time}

theorem runsBefore_iff :
    a.runsBefore b = true ↔
      a.start < b.start ∨ a.start = b.start ∧ a.handle.serial ≤ b.handle.serial := by
  simp [runsBefore]

theorem runsBefore_trans (hab : a.runsBefore b = true) (hbc : b.runsBefore c = true) :
    a.runsBefore c = true := by
  simp only [runsBefore_iff, Time.lt_iff, Time.eq_iff_nanoseconds] at *
  omega

theorem runsBefore_total (a b : TimerTask ν) : (a.runsBefore b || b.runsBefore a) = true := by
  simp only [Bool.or_eq_true, runsBefore_iff, Time.lt_iff, Time.eq_iff_nanoseconds]
  omega

theorem serial_eq_of_runsBefore (hab : a.runsBefore b = true) (hba : b.runsBefore a = true) :
    a.handle.serial = b.handle.serial := by
  simp only [runsBefore_iff, Time.lt_iff, Time.eq_iff_nanoseconds] at *
  omega

theorem isRunnable_iff : a.isRunnable now = true ↔ a.start ≤ now := by
  simp [isRunnable]

theorem not_isRunnable_iff : (!a.isRunnable now) = true ↔ now < a.start := by
  simp only [isRunnable, Bool.not_eq_true', decide_eq_false_iff_not]
  exact Time.not_le

/-- A task that may run may run later as well. -/
theorem isRunnable_later (h : now ≤ later) (hnow : a.isRunnable now = true) :
    a.isRunnable later = true :=
  isRunnable_iff.2 (Time.le_trans (isRunnable_iff.1 hnow) h)

end TimerTask

namespace TimerQueue

variable {ν : Type} {q : TimerQueue ν} {t u : TimerTask ν} {now later : Time}

/-! ## Polls in two steps -/

theorem mem_runnable : t ∈ q.runnable now ↔ t ∈ q.tasks ∧ t.start ≤ now := by
  rw [(runnable_perm now).mem_iff, List.mem_filter, TimerTask.isRunnable_iff]

theorem mem_tasks_withoutRunnable :
    t ∈ (q.withoutRunnable now).tasks ↔ t ∈ q.tasks ∧ now < t.start := by
  rw [tasks_withoutRunnable, List.mem_filter, TimerTask.not_isRunnable_iff]

theorem pairwise_runnable (now : Time) (q : TimerQueue ν) :
    (q.runnable now).Pairwise fun t u => t.runsBefore u = true := by
  have htrans (a b c : TimerTask ν) : a.runsBefore b = true → b.runsBefore c = true →
      a.runsBefore c = true :=
    TimerTask.runsBefore_trans
  exact List.pairwise_mergeSort htrans TimerTask.runsBefore_total _

/-- No two pending tasks have the same serial number. -/
def Numbered (q : TimerQueue ν) : Prop :=
  (q.tasks.map fun t => t.handle.serial).Nodup

theorem Numbered.eq_of_serial_eq (numbered : q.Numbered) (ht : t ∈ q.tasks) (hu : u ∈ q.tasks)
    (h : t.handle.serial = u.handle.serial) : t = u :=
  List.inj_on_of_nodup_map numbered ht hu h

/-- There is one order in which the runnable tasks can run. -/
theorem Numbered.eq_runnable (numbered : q.Numbered) {due : List (TimerTask ν)}
    (perm : due.Perm (q.runnable now)) (sorted : due.Pairwise fun t u => t.runsBefore u = true) :
    due = q.runnable now := by
  refine perm.eq_of_pairwise (fun t u ht hu htu hut => ?_) sorted (pairwise_runnable now q)
  have ht' := (mem_runnable.1 (perm.mem_iff.1 ht)).1
  have hu' := (mem_runnable.1 hu).1
  exact numbered.eq_of_serial_eq ht' hu' (TimerTask.serial_eq_of_runsBefore htu hut)

theorem runnable_append_perm (h : now ≤ later) :
    (q.runnable now ++ (q.withoutRunnable now).runnable later).Perm (q.runnable later) := by
  let early (t : TimerTask ν) : Bool := t.isRunnable now
  let late (t : TimerTask ν) : Bool := t.isRunnable later
  -- What is runnable now is so later, so the later ones are the early ones and the others.
  have hearly : q.tasks.filter early = (q.tasks.filter late).filter early := by
    rw [List.filter_filter]
    refine List.filter_congr fun t _ => ?_
    cases hnow : early t with
    | false => rfl
    | true => exact (TimerTask.isRunnable_later h hnow).symm
  have hothers : (q.withoutRunnable now).tasks.filter late =
      (q.tasks.filter late).filter fun t => !early t := by
    rw [tasks_withoutRunnable, List.filter_filter, List.filter_filter]
    exact List.filter_congr fun t _ => Bool.and_comm _ _
  calc (q.runnable now ++ (q.withoutRunnable now).runnable later).Perm
        (q.tasks.filter early ++ (q.withoutRunnable now).tasks.filter late) :=
        (runnable_perm now).append (runnable_perm later)
    _ = (q.tasks.filter late).filter early ++
        (q.tasks.filter late).filter fun t => !early t := by rw [← hearly, hothers]
    _ |>.Perm (q.tasks.filter late) := List.filter_append_perm _ _
    _ |>.Perm (q.runnable later) := (runnable_perm later).symm

/-- Polling twice takes the tasks out in the order in which one poll would. -/
theorem runnable_append (numbered : q.Numbered) (h : now ≤ later) :
    q.runnable now ++ (q.withoutRunnable now).runnable later = q.runnable later := by
  refine numbered.eq_runnable (runnable_append_perm h) ?_
  refine List.pairwise_append.2 ⟨pairwise_runnable now q, pairwise_runnable later _, ?_⟩
  intro t ht u hu
  -- The second poll finds only tasks that start after the first one.
  have hstart := (mem_runnable.1 ht).2
  have hlater := (mem_tasks_withoutRunnable.1 (mem_runnable.1 hu).1).2
  exact TimerTask.runsBefore_iff.2 (.inl (Nat.lt_of_le_of_lt hstart hlater))

theorem withoutRunnable_withoutRunnable (h : now ≤ later) (q : TimerQueue ν) :
    (q.withoutRunnable now).withoutRunnable later = q.withoutRunnable later := by
  -- A slot that is emptied now would be emptied later as well.
  have hslot (slot : Option (TimerTask ν)) :
      (slot.filter fun t => !t.isRunnable now).filter (fun t => !t.isRunnable later) =
        slot.filter fun t => !t.isRunnable later := by
    rw [Option.filter_filter]
    congr 1
    funext t
    cases hnow : t.isRunnable now with
    | false => rfl
    | true => simp [TimerTask.isRunnable_later h hnow]
  simp only [withoutRunnable, Vector.map_map]
  congr 2
  funext slot
  exact hslot slot

theorem runnable_withoutRunnable (now : Time) (q : TimerQueue ν) :
    (q.withoutRunnable now).runnable now = [] := by
  refine List.eq_nil_iff_forall_not_mem.2 fun t ht => ?_
  rcases mem_runnable.1 ht with ⟨hpending, hstart⟩
  exact Time.not_le.2 (mem_tasks_withoutRunnable.1 hpending).2 hstart

/-- A poll in between changes nothing about what a later poll comes to. -/
theorem run_poll_split (numbered : q.Numbered) (h : now ≤ later) :
    let first := (poll now).run q
    let second := (poll later).run first.state
    let whole := (poll later).run q
    first.effects ++ second.effects = whole.effects ∧
      first.value + second.value = whole.value ∧ second.state = whole.state := by
  have happend := runnable_append numbered h
  simp only [run_poll, ← List.map_append, ← List.length_append, happend,
    withoutRunnable_withoutRunnable h, and_self]

/-- A poll leaves nothing to fire at the same instant. -/
theorem run_poll_again (now : Time) (q : TimerQueue ν) :
    let polled := ((poll now).run q).state
    (poll now).run polled = ⟨0, polled, []⟩ := by
  simp only [run_poll, runnable_withoutRunnable, withoutRunnable_withoutRunnable (Nat.le_refl _),
    List.length_nil, List.map_nil]

/-! ## The order of insertion -/

/-- In a list of growing numbers a smaller one stands before a larger one. -/
theorem pair_sublist {α : Type} {f : α → Nat} {l : List α} {a b : α}
    (growing : l.Pairwise fun x y => f x < f y) (ha : a ∈ l) (hb : b ∈ l) (h : f a < f b) :
    [a, b].Sublist l := by
  rcases List.append_of_mem ha with ⟨before, after, rfl⟩
  rcases List.pairwise_append.1 growing with ⟨-, -, hcross⟩
  have hafter : b ∈ after := by
    rcases List.mem_append.1 hb with hbefore | hrest
    · exact absurd (hcross b hbefore a List.mem_cons_self) (Nat.lt_asymm h)
    · rcases List.mem_cons.1 hrest with rfl | hafter
      · exact absurd h (Nat.lt_irrefl _)
      · exact hafter
  exact ((List.singleton_sublist.2 hafter).cons_cons a).trans (List.sublist_append_right _ _)

namespace Custody
namespace Kept

variable {hist : History ν} {es : List (TimerEffect ν)} {k : Custody ν}

theorem pairwise_serial (h : Kept hist es k) :
    (inserted hist).Pairwise fun t u => t.handle.serial < u.handle.serial := by
  have hserials := h.serials
  rw [h.handed, List.map_map] at hserials
  have hgrowing : ((inserted hist).map fun t => t.handle.serial).Pairwise (· < ·) := by
    refine (congrArg (List.Pairwise (· < ·)) hserials).mpr ?_
    exact List.pairwise_lt_range
  exact List.pairwise_map.1 hgrowing

theorem mem_inserted (h : Kept hist es k) (ht : t ∈ k.queue.tasks) : t ∈ inserted hist :=
  (waiting_sublist hist).subset (h.tasks.mem_iff.1 ht)

theorem numbered (h : Kept hist es k) : k.queue.Numbered := by
  have hwaiting : ((waiting hist).map fun t => t.handle.serial).Nodup := by
    refine List.pairwise_map.2 ?_
    exact (h.pairwise_serial.sublist (waiting_sublist hist)).imp Nat.ne_of_lt
  exact (h.tasks.map _).nodup_iff.2 hwaiting

/-- The runnable tasks in the order they run, told by starts and insertions. -/
theorem pairwise_runnable_inserted (h : Kept hist es k) (now : Time) :
    (k.queue.runnable now).Pairwise fun t u =>
      t.start < u.start ∨ t.start = u.start ∧ [t, u].Sublist (inserted hist) := by
  have hnodup : (k.queue.runnable now).Nodup :=
    (runnable_perm now).nodup_iff.2 (h.numbered.of_map _ |>.filter _)
  refine ((pairwise_runnable now k.queue).and hnodup).imp_of_mem ?_
  rintro t u ht hu ⟨hbefore, hne⟩
  have ht' := (mem_runnable.1 ht).1
  have hu' := (mem_runnable.1 hu).1
  rcases TimerTask.runsBefore_iff.1 hbefore with hstart | ⟨hstart, hserial⟩
  · exact .inl hstart
  · -- Two tasks have two serial numbers, so the one that is not greater is less.
    have hless : t.handle.serial < u.handle.serial :=
      Nat.lt_of_le_of_ne hserial fun hsame => hne (h.numbered.eq_of_serial_eq ht' hu' hsame)
    exact .inr ⟨hstart,
      pair_sublist h.pairwise_serial (h.mem_inserted ht') (h.mem_inserted hu') hless⟩

end Kept
end Custody

/-! ## The main statement -/

open Custody

/-- After any turns, with fewer successful requests than there are serial numbers and all instants
on the clock, a poll fires the waiting tasks that may start, and no others: by start, and in the
order of insertion among those of one start.  It answers how many they are, and leaves every other
task pending under its handle.  A later poll then fires the rest of what it would have fired alone,
in the same order, and once more it fires nothing. -/
theorem polls_fire_in_order (turns : List (Turn ν)) (onClock : ∀ t ∈ turns, t.onClock = true)
    (few : (handles (history turns)).length < serialLimit) (now : Time) :
    let hist := history turns
    let q := (life turns).state.queue
    let first := (poll now).run q
    (∃ due : List (TimerTask ν),
      due.Perm ((waiting hist).filter fun t => decide (t.start ≤ now)) ∧
        (due.Pairwise fun t u =>
          t.start < u.start ∨ t.start = u.start ∧ [t, u].Sublist (inserted hist)) ∧
        first.effects = due.map (fun t => .settled .fired t.invocation) ∧
        first.value = due.length) ∧
      first.state.tasks.Perm ((waiting hist).filter fun t => !decide (t.start ≤ now)) ∧
      (∀ t ∈ waiting hist,
        first.state.find? t.handle = if t.start ≤ now then none else some t) ∧
      ∀ later, now ≤ later →
        let second := (poll later).run first.state
        let whole := (poll later).run q
        first.effects ++ second.effects = whole.effects ∧
          first.value + second.value = whole.value ∧ second.state = whole.state ∧
          (poll later).run whole.state = ⟨0, whole.state, []⟩ := by
  intro hist q first
  have hkept : Kept hist (life turns).effects (life turns).state := kept_life turns onClock few
  have hrun : first = ⟨(q.runnable now).length, q.withoutRunnable now,
      (q.runnable now).map fun t => .settled .fired t.invocation⟩ := run_poll now
  have hleft : first.state = q.withoutRunnable now := congrArg Outcome.state hrun
  refine ⟨⟨q.runnable now, ?_, hkept.pairwise_runnable_inserted now, ?_, ?_⟩, ?_, ?_, ?_⟩
  · exact (runnable_perm now).trans (hkept.tasks.filter _)
  · rw [hrun]
  · rw [hrun]
  · rw [hleft, tasks_withoutRunnable]
    exact hkept.tasks.filter _
  · intro t ht
    have hseated := seated_withoutRunnable hkept.seated now
    rw [hleft]
    split
    · next hstart =>
        -- Another task with this handle would be this one, which was fired.
        refine (find?_eq_none_iff hseated).2 fun u hu hsame => ?_
        rcases mem_tasks_withoutRunnable.1 hu with ⟨hpending, hlater⟩
        have heq := hkept.eq_of_handle_eq (hkept.mem_inserted hpending)
          ((waiting_sublist hist).subset ht) hsame
        rw [heq] at hlater
        exact Time.not_le.2 hlater hstart
    · next hstart =>
        have hpending := hkept.tasks.mem_iff.2 ht
        exact (find?_eq_some_iff hseated).2
          ⟨mem_tasks_withoutRunnable.2 ⟨hpending, Time.not_le.1 hstart⟩, rfl⟩
  · intro later hlater
    rcases run_poll_split hkept.numbered hlater with ⟨heffects, hvalue, hstate⟩
    exact ⟨heffects, hvalue, hstate, run_poll_again later q⟩

/-- The third task sits in the slot of the first, which was cancelled, and so before the second, but
it runs after it.  The last task is left for a later poll. -/
theorem polls_fire_in_order_on_reuse :
    let turns : List (Turn Nat) :=
      [.call (.insert ⟨1⟩ ⟨2⟩ ⟨10, true⟩), .call (.insert ⟨3⟩ ⟨8⟩ ⟨11, true⟩),
        .call (.cancel ⟨0, ⟨0, by decide⟩⟩), .call (.insertAfter ⟨2⟩ ⟨1⟩ ⟨1⟩ ⟨12, false⟩),
        .call (.insert ⟨9⟩ ⟨9⟩ ⟨13, true⟩)]
    let last : TimerTask Nat := ⟨⟨3, ⟨2, by decide⟩⟩, ⟨9⟩, ⟨9⟩, ⟨13, true⟩⟩
    let q := (life turns).state.queue
    let polled := (poll ⟨4⟩).run q
    (∀ t ∈ turns, t.onClock = true) ∧ (handles (history turns)).length < serialLimit ∧
      q.tasks.map (·.invocation.label) = [12, 11, 13] ∧
      polled.effects = [.settled .fired ⟨11, true⟩, .settled .fired ⟨12, false⟩] ∧
      polled.state.find? last.handle = some last ∧
      polled.effects ++ ((poll ⟨9⟩).run polled.state).effects = ((poll ⟨9⟩).run q).effects := by
  intro turns last q polled
  let due : List (TimerTask Nat) :=
    [⟨⟨1, ⟨1, by decide⟩⟩, ⟨3⟩, ⟨8⟩, ⟨11, true⟩⟩, ⟨⟨2, ⟨0, by decide⟩⟩, ⟨3⟩, ⟨3⟩, ⟨12, false⟩⟩]
  have honClock : ∀ t ∈ turns, t.onClock = true := by decide
  have hfew : (handles (history turns)).length < serialLimit := by decide +kernel
  have hlast : last ∈ waiting (history turns) := by decide +kernel
  have hnumbered : q.Numbered := (kept_life turns honClock hfew).numbered
  have hdue : due = q.runnable ⟨4⟩ := by
    refine hnumbered.eq_runnable (.trans ?_ (runnable_perm ⟨4⟩).symm) (by decide)
    decide +kernel
  have heffects : polled.effects = [.settled .fired ⟨11, true⟩, .settled .fired ⟨12, false⟩] := by
    rw [show polled = _ from run_poll ⟨4⟩, ← hdue]
    rfl
  rcases polls_fire_in_order turns honClock hfew ⟨4⟩ with ⟨-, -, hpending, hlater⟩
  exact ⟨honClock, hfew, by decide +kernel, heffects, hpending last hlast,
    (hlater ⟨9⟩ (by decide)).1⟩

end TimerQueue
end WindowRelay

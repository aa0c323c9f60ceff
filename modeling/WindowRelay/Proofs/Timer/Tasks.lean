import Mathlib.Data.List.Perm.Basic
import WindowRelay.Timer.Queue

/-!
# Tasks — the queue seen as a collection of pending tasks

Slots are how a queue stores its tasks; what it promises is about the tasks.  This file says what
each operation does to `TimerQueue.tasks`, up to order:

- `Seated`: every task sits in the slot that its handle names, which makes handles unambiguous.
- `find?_eq_some_iff`, `freeSlot?_eq_none_iff`: the two searches, in terms of the tasks.
-/

namespace WindowRelay

namespace TimerQueue

variable {ν : Type}

/-! ## Occupied slots -/

section Slots

variable {α : Type}

theorem perm_of_getElem? {l : List α} {n : Nat} {a : α} (h : l[n]? = some a) :
    l.Perm (a :: l.eraseIdx n) := by
  rcases List.getElem?_eq_some_iff.1 h with ⟨hlength, rfl⟩
  exact (List.getElem_cons_eraseIdx_perm hlength).symm

/-- Filling an empty slot adds its content to what is there. -/
theorem filterMap_set_some (l : List (Option α)) (n : Nat) (a : α) (h : l[n]? = some none) :
    ((l.set n (some a)).filterMap id).Perm (a :: l.filterMap id) := by
  have hlength : n < l.length := (List.getElem?_eq_some_iff.1 h).1
  have hfilled := (List.set_perm_cons_eraseIdx hlength (some a)).filterMap id
  have hempty := (perm_of_getElem? h).filterMap id
  exact hfilled.trans (hempty.symm.cons a)

/-- Emptying a slot takes its content, and nothing else, from what is there. -/
theorem filterMap_set_none (l : List (Option α)) (n : Nat) (a : α) (h : l[n]? = some (some a)) :
    (l.filterMap id).Perm (a :: (l.set n none).filterMap id) := by
  rcases List.getElem?_eq_some_iff.1 h with ⟨hlength, ha⟩
  have hfill := filterMap_set_some (l.set n none) n a (by simp [hlength])
  have hback : (l.set n none).set n (some a) = l := by
    rw [List.set_set, ← ha, List.set_getElem_self]
  rwa [hback] at hfill

end Slots

variable {q : TimerQueue ν} {t : TimerTask ν} {h : TimerHandle}

/-- The task in a slot, if there is one. -/
def occupant (q : TimerQueue ν) (s : Fin capacity) : Option (TimerTask ν) :=
  getElem q.slots s s.isLt

@[simp]
theorem occupant_eq (s : Fin capacity) : q.occupant s = getElem q.slots s.val s.isLt :=
  rfl

theorem getElem?_slots (s : Fin capacity) : q.slots.toList[s.val]? = some (q.occupant s) := by
  simp

theorem mem_tasks : t ∈ q.tasks ↔ ∃ s : Fin capacity, q.occupant s = some t := by
  simp only [tasks, List.mem_filterMap, id]
  constructor
  · rintro ⟨o, ho, rfl⟩
    rcases List.getElem_of_mem ho with ⟨n, hn, hget⟩
    exact ⟨⟨n, by simpa using hn⟩, by simpa using hget⟩
  · rintro ⟨s, hs⟩
    exact ⟨some t, hs ▸ List.mem_of_getElem? (getElem?_slots s), rfl⟩

/-- A queue has a free slot unless it holds as many tasks as it can. -/
theorem freeSlot?_eq_none_iff : q.freeSlot? = none ↔ q.length = capacity := by
  have hlength : q.slots.toList.length = capacity := by simp
  have hcount : q.length = q.slots.toList.countP Option.isSome := by
    simp [length, tasks, List.length_filterMap_eq_countP]
  calc q.freeSlot? = none
      ↔ ∀ o ∈ q.slots.toList, o.isSome = true := by
        simp [freeSlot?, Vector.findFinIdx?_eq_none_iff, Option.isSome_iff_ne_none]
    _ ↔ q.slots.toList.countP Option.isSome = q.slots.toList.length := List.countP_eq_length.symm
    _ ↔ q.length = capacity := by rw [hcount, hlength]

theorem slots_of_freeSlot? {s : Fin capacity} (h : q.freeSlot? = some s) : q.occupant s = none := by
  rcases q with ⟨⟨slots, hsize⟩, serial⟩
  simp only [freeSlot?, Vector.findFinIdx?_mk, Option.map_eq_some_iff] at h
  rcases h with ⟨n, hn, rfl⟩
  simpa using (Array.findFinIdx?_eq_some_iff.1 hn).1

/-! ## Seats -/

/-- Every task sits in the slot that its handle names. -/
def Seated (q : TimerQueue ν) : Prop :=
  ∀ (s : Fin capacity) (t : TimerTask ν), q.occupant s = some t → t.handle.slot = s

/-- The queue without its tasks. -/
def emptied (q : TimerQueue ν) : TimerQueue ν :=
  { q with slots := Vector.replicate capacity none }

theorem seated_emptied (q : TimerQueue ν) : q.emptied.Seated := by
  intro s t hs
  simp [emptied] at hs

@[simp]
theorem tasks_emptied (q : TimerQueue ν) : q.emptied.tasks = [] := by
  simp [emptied, tasks]

/-- The search for a handle looks in one slot only, and misses nothing. -/
theorem find?_eq_some_iff (seated : q.Seated) : q.find? h = some t ↔ t ∈ q.tasks ∧ t.handle = h := by
  rw [mem_tasks]
  constructor
  · intro hfind
    unfold find? at hfind
    split at hfind
    · cases hfind
    · split at hfind
      · cases hfind
        exact ⟨⟨h.slot, ‹_›⟩, ‹_›⟩
      · cases hfind
  · rintro ⟨⟨s, hs⟩, rfl⟩
    have hslot := seated s t hs
    subst hslot
    rw [occupant_eq] at hs
    simp [find?, hs]

theorem find?_eq_none_iff (seated : q.Seated) : q.find? h = none ↔ ∀ t ∈ q.tasks, t.handle ≠ h := by
  constructor
  · intro hfind t ht hh
    rw [(find?_eq_some_iff seated).2 ⟨ht, hh⟩] at hfind
    cases hfind
  · intro hnone
    cases hfind : q.find? h with
    | none => rfl
    | some t =>
        rcases (find?_eq_some_iff seated).1 hfind with ⟨ht, hh⟩
        exact absurd hh (hnone t ht)

/-! ## Scheduling -/

/-- The queue after a task was put into its slot. -/
def seat (q : TimerQueue ν) (t : TimerTask ν) : TimerQueue ν :=
  ⟨q.slots.set t.handle.slot (some t), (q.nextSerial + 1) % serialLimit⟩

theorem seated_seat (seated : q.Seated) (t : TimerTask ν) : (q.seat t).Seated := by
  intro s u hu
  by_cases hs : t.handle.slot = s
  · have ht : t = u := by simpa [seat, ← hs] using hu
    rw [← ht, hs]
  · refine seated s u ?_
    have hne : t.handle.slot.val ≠ s.val := fun hval => hs (Fin.ext hval)
    simpa [seat, Vector.getElem_set, hne] using hu

theorem tasks_seat (free : q.occupant t.handle.slot = none) :
    (q.seat t).tasks.Perm (t :: q.tasks) := by
  have hfree : q.slots.toList[t.handle.slot.val]? = some none := by
    rw [getElem?_slots, free]
  simpa [seat, tasks, Vector.toList_set] using filterMap_set_some _ _ t hfree

theorem run_insert_full (start stop : Time) (i : Invocation ν) (full : q.length = capacity) :
    (insert start stop i).run q =
      ⟨.error .full, q, [.warning .timerQueueFull, .settled .cancelled i]⟩ := by
  simp [insert, freeSlot?_eq_none_iff.2 full, Invocation.cancel]

theorem run_insert_ok (start stop : Time) (i : Invocation ν) (room : q.length ≠ capacity) :
    ∃ slot, q.occupant slot = none ∧
      (insert start stop i).run q =
        ⟨.ok ⟨q.nextSerial, slot⟩, q.seat ⟨⟨q.nextSerial, slot⟩, start, max stop start, i⟩, []⟩ := by
  cases hfree : q.freeSlot? with
  | none =>
      exact absurd (freeSlot?_eq_none_iff.1 hfree) room
  | some slot =>
      exact ⟨slot, slots_of_freeSlot? hfree, by simp [insert, hfree, seat]⟩

/-! ## Removing one task -/

/-- The queue without the task in a slot. -/
def vacate (q : TimerQueue ν) (s : Fin capacity) : TimerQueue ν :=
  { q with slots := q.slots.set s none s.isLt }

theorem slots_vacate {s r : Fin capacity} (hs : (q.vacate s).occupant r = some t) :
    q.occupant r = some t ∧ r ≠ s := by
  by_cases hr : s.val = r.val
  · simp [vacate, hr] at hs
  · refine ⟨by simpa [vacate, Vector.getElem_set, hr] using hs, ?_⟩
    rintro rfl
    exact hr rfl

theorem seated_vacate (seated : q.Seated) (s : Fin capacity) : (q.vacate s).Seated := by
  intro r t hr
  exact seated r t (slots_vacate hr).1

theorem tasks_vacate (seated : q.Seated) (ht : t ∈ q.tasks) :
    q.tasks.Perm (t :: (q.vacate t.handle.slot).tasks) := by
  rcases mem_tasks.1 ht with ⟨s, hs⟩
  rw [seated s t hs]
  have hslot : q.slots.toList[s.val]? = some (some t) := by
    rw [getElem?_slots, hs]
  simpa [vacate, tasks, Vector.toList_set] using filterMap_set_none _ _ t hslot

/-- Once a task is gone no other answers to its handle. -/
theorem handle_ne_of_mem_vacate (seated : q.Seated) {u : TimerTask ν}
    (hu : u ∈ (q.vacate t.handle.slot).tasks) : u.handle ≠ t.handle := by
  rcases mem_tasks.1 hu with ⟨r, hr⟩
  rcases slots_vacate hr with ⟨hslot, hne⟩
  intro hsame
  exact hne (by rw [← seated r u hslot, hsame])

theorem filter_handle_eq (seated : q.Seated) (ht : t ∈ q.tasks) :
    (q.tasks.filter fun u => decide (u.handle = t.handle)).Perm [t] := by
  have hothers : (q.vacate t.handle.slot).tasks.filter (fun u => decide (u.handle = t.handle)) =
      [] :=
    List.filter_eq_nil_iff.2 fun u hu => by simpa using handle_ne_of_mem_vacate seated hu
  simpa [hothers] using (tasks_vacate seated ht).filter fun u => decide (u.handle = t.handle)

theorem filter_handle_ne (seated : q.Seated) (ht : t ∈ q.tasks) :
    (q.vacate t.handle.slot).tasks.Perm
      (q.tasks.filter fun u => !decide (u.handle = t.handle)) := by
  have hothers : (q.vacate t.handle.slot).tasks.filter (fun u => !decide (u.handle = t.handle)) =
      (q.vacate t.handle.slot).tasks :=
    List.filter_eq_self.2 fun u hu => by simpa using handle_ne_of_mem_vacate seated hu
  have hfilter := (tasks_vacate seated ht).filter fun u => !decide (u.handle = t.handle)
  simpa [hothers] using hfilter.symm

theorem run_cancel_none (h : TimerHandle) (gone : q.find? h = none) :
    (cancel h).run q = ⟨false, q, []⟩ := by
  simp [cancel, gone]

theorem run_cancel_some (h : TimerHandle) (pending : q.find? h = some t) :
    (cancel h).run q = ⟨true, q.vacate h.slot, [.settled .cancelled t.invocation]⟩ := by
  simp [cancel, pending, vacate, Invocation.cancel]

/-! ## Removing many tasks -/

theorem tasks_withoutRunnable (now : Time) :
    (q.withoutRunnable now).tasks = q.tasks.filter fun t => !t.isRunnable now := by
  simp only [withoutRunnable, tasks, Vector.toList_map, List.filterMap_map, List.filter_filterMap]
  rfl

theorem seated_withoutRunnable (seated : q.Seated) (now : Time) :
    (q.withoutRunnable now).Seated := by
  intro s t hs
  refine seated s t ?_
  have hfilter : (q.occupant s).filter (fun t => !t.isRunnable now) = some t := by
    simpa [withoutRunnable] using hs
  exact (Option.filter_eq_some_iff.1 hfilter).1

theorem runnable_perm (now : Time) :
    (q.runnable now).Perm (q.tasks.filter (TimerTask.isRunnable now)) :=
  List.mergeSort_perm _ _

theorem run_drain (now : Time) :
    (drain now).run q = ⟨q.runnable now, q.withoutRunnable now, []⟩ :=
  rfl

theorem run_poll (now : Time) :
    (poll now).run q =
      ⟨(q.runnable now).length, q.withoutRunnable now,
        (q.runnable now).map fun t => .settled .fired t.invocation⟩ := by
  have hfire := Action.run_each (σ := TimerQueue ν)
    (m := fun t : TimerTask ν => t.invocation.fire) (fun _ _ => rfl)
  simp [poll, run_drain, hfire, List.map_eq_flatMap]

theorem run_clear :
    clear.run q =
      ⟨(), q.emptied, q.tasks.map fun t => .settled .cancelled t.invocation⟩ := by
  have hcancel := Action.run_each (σ := TimerQueue ν)
    (m := fun t : TimerTask ν => t.invocation.cancel) (fun _ _ => rfl)
  simp [clear, hcancel, emptied, List.map_eq_flatMap]

end TimerQueue
end WindowRelay

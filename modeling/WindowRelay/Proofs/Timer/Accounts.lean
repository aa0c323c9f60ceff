import Mathlib.Data.List.Nodup
import WindowRelay.Proofs.Timer.History

/-!
# Accounts — no invocation is lost and none is settled twice

The state of a queue agrees with the history of its turns.  `Custody.Kept` says how, and holds after
every turn (`Kept.snoc`), hence after all of them (`kept_life`).  It gives the main statement,
`invocations_are_settled_once`, as long as serial numbers have not started over.
-/

namespace WindowRelay

/-- The word of a handle is its serial number and its slot side by side. -/
theorem TimerHandle.word_injective : Function.Injective TimerHandle.word := by
  rintro ⟨m, s⟩ ⟨n, r⟩ hword
  have hs := s.isLt
  have hr := r.isLt
  simp only [TimerHandle.word, TimerQueue.capacity] at hword hs hr
  have hserial : m = n := by omega
  have hslot : s = r := Fin.ext (by omega)
  rw [hserial, hslot]

namespace TimerQueue

variable {ν : Type}

/-! ## Histories and their last entry -/

section Histories

variable (hist : History ν) (t : Turn ν) (reply : Except Fault Reply)

theorem handles_snoc :
    handles (hist ++ [(t, reply)]) = handles hist ++ (handle? reply).toList := by
  cases hhandle : handle? reply <;> simp [handles, hhandle]

theorem inserted_snoc :
    inserted (hist ++ [(t, reply)]) = inserted hist ++ (t.task? reply).toList := by
  cases htask : t.task? reply <;> simp [inserted, htask]

theorem offered_snoc :
    offered (hist ++ [(t, reply)]) =
      offered hist ++ (t.request?.map Request.invocation).toList := by
  cases hrequest : t.request? <;> simp [offered, hrequest]

theorem waiting_sublist : (waiting hist).Sublist (inserted hist) := by
  induction hist with
  | nil =>
      exact .slnil
  | cons entry later ih =>
      cases htask : entry.1.task? entry.2 with
      | none =>
          simpa [waiting, inserted, htask] using ih
      | some u =>
          have hhead : ([u].filter fun u => later.all fun e => !e.1.removes u).Sublist [u] :=
            List.filter_sublist
          simpa [waiting, inserted, htask] using hhead.append ih

end Histories

/-! ## State and history -/

namespace Custody

/-- What the state of a queue has to do with the turns so far and their effects. -/
structure Kept (hist : History ν) (es : List (TimerEffect ν)) (k : Custody ν) : Prop where
  seated : k.queue.Seated
  tasks : k.queue.tasks.Perm (waiting hist)
  handed : handles hist = (inserted hist).map (·.handle)
  serials : (handles hist).map (·.serial) = List.range k.queue.nextSerial
  balance : (offered hist).Perm (TimerEffect.disposed es ++ k.unsettled)

namespace Kept

variable {hist : History ν} {es : List (TimerEffect ν)} {k : Custody ν} {t : Turn ν}
  {o : Outcome (TimerEffect ν) (Custody ν) (Except Fault Reply)}

theorem start : Kept ([] : History ν) [] start where
  seated := seated_emptied empty
  tasks := by
    have hnone : (empty : TimerQueue ν).tasks = [] := tasks_emptied empty
    simp [Custody.start, hnone, waiting]
  handed := rfl
  serials := rfl
  balance := by
    have hnone : (empty : TimerQueue ν).tasks = [] := tasks_emptied empty
    simp [Custody.start, unsettled, hnone, offered]

theorem length_handles (h : Kept hist es k) : (handles hist).length = k.queue.nextSerial := by
  simpa using congrArg List.length h.serials

/-- Handles are told apart by their serial numbers, whatever slots they name. -/
theorem handles_nodup (h : Kept hist es k) : (handles hist).Nodup := by
  have hserials : ((handles hist).map (·.serial)).Nodup := by
    rw [h.serials]
    exact List.nodup_range
  exact hserials.of_map _

theorem snoc (h : Kept hist es k) (ht : Turned t k o)
    (few : (handles (hist ++ [(t, o.value)])).length < serialLimit) :
    Kept (hist ++ [(t, o.value)]) (es ++ o.effects) o.state where
  seated := ht.seated
  tasks := by
    rw [waiting_snoc]
    exact ht.tasks.trans ((h.tasks.filter _).append_right _)
  handed := by
    rw [handles_snoc, inserted_snoc, List.map_append, h.handed]
    rcases ht.serials with ⟨hnone, -⟩ | ⟨u, htask, hhandle, -, -⟩
    · cases hrequest : t.request? <;> simp [Turn.task?, hnone, hrequest]
    · simp [htask, hhandle]
  serials := by
    rw [handles_snoc] at few ⊢
    rcases ht.serials with ⟨hnone, hserial⟩ | ⟨u, -, hhandle, hnew, hserial⟩
    · simpa [hnone, hserial] using h.serials
    · -- The next serial number is within the limit, so it does not start over.
      have hnext : k.queue.nextSerial + 1 < serialLimit := by
        simpa [hhandle, h.length_handles] using few
      rw [hserial, Nat.mod_eq_of_lt hnext, List.range_succ, ← h.serials, hhandle]
      simp [hnew]
  balance := by
    rw [offered_snoc, TimerEffect.disposed_append, List.append_assoc]
    have hbefore := h.balance.append_right (t.request?.map Request.invocation).toList
    rw [List.append_assoc] at hbefore
    exact hbefore.trans ((List.perm_append_comm.trans ht.balance).append_left _)

end Kept

/-! ## All turns -/

/-- The outcome of a list of turns on a new queue. -/
def life (turns : List (Turn ν)) :
    Outcome (TimerEffect ν) (Custody ν) (List (Except Fault Reply)) :=
  (Action.replay turn turns).run start

end Custody

open Custody

def history (turns : List (Turn ν)) : History ν :=
  turns.zip (life turns).value

theorem kept_replay (turns : List (Turn ν)) {hist : History ν} {es : List (TimerEffect ν)}
    {k : Custody ν} (h : Kept hist es k) (onClock : ∀ t ∈ turns, t.onClock = true)
    (few : (handles (hist ++ turns.zip ((Action.replay turn turns).run k).value)).length <
      serialLimit) :
    Kept (hist ++ turns.zip ((Action.replay turn turns).run k).value)
      (es ++ ((Action.replay turn turns).run k).effects)
      ((Action.replay turn turns).run k).state := by
  induction turns generalizing hist es k with
  | nil =>
      simpa using h
  | cons t turns ih =>
      have hturned := turned t (onClock t List.mem_cons_self) h.seated
      have hcons (es' : List (Turn ν × Except Fault Reply)) (e : Turn ν × Except Fault Reply) :
          hist ++ e :: es' = (hist ++ [e]) ++ es' := by
        simp
      simp only [Action.run_replay_cons, List.zip_cons_cons, ← List.append_assoc] at few ⊢
      rw [hcons] at few ⊢
      -- The handles up to this turn are some of all handles, so they are few as well.
      have hfewer : (handles (hist ++ [(t, ((turn t).run k).value)])).length < serialLimit := by
        refine Nat.lt_of_le_of_lt ?_ few
        simp only [handles, List.filterMap_append, List.length_append]
        omega
      exact ih (h.snoc hturned hfewer) (fun u hu => onClock u (List.mem_cons_of_mem t hu)) few

theorem kept_life (turns : List (Turn ν)) (onClock : ∀ t ∈ turns, t.onClock = true)
    (few : (handles (history turns)).length < serialLimit) :
    Kept (history turns) (life turns).effects (life turns).state := by
  exact kept_replay turns Kept.start onClock few

/-! ## What the state of the accounts tells -/

namespace Custody

namespace Kept

variable {hist : History ν} {es : List (TimerEffect ν)} {k : Custody ν} {t u : TimerTask ν}

theorem eq_of_handle_eq (h : Kept hist es k) (ht : t ∈ inserted hist) (hu : u ∈ inserted hist)
    (hsame : t.handle = u.handle) : t = u := by
  have hnodup := h.handles_nodup
  rw [h.handed] at hnodup
  exact List.inj_on_of_nodup_map hnodup ht hu hsame

theorem length_waiting (h : Kept hist es k) : k.queue.length = (waiting hist).length :=
  h.tasks.length_eq

theorem find?_of_waiting (h : Kept hist es k) (ht : t ∈ waiting hist) :
    k.queue.find? t.handle = some t :=
  (find?_eq_some_iff h.seated).2 ⟨h.tasks.mem_iff.2 ht, rfl⟩

theorem find?_of_none_waiting (h : Kept hist es k) {handle : TimerHandle}
    (hnone : ∀ t ∈ waiting hist, t.handle ≠ handle) : k.queue.find? handle = none :=
  (find?_eq_none_iff h.seated).2 fun t ht => hnone t (h.tasks.mem_iff.1 ht)

/-- A handle that was handed out cancels its own task or none. -/
theorem cancel_eq_true_iff (h : Kept hist es k) (ht : t ∈ inserted hist) :
    ((cancel t.handle).run k.queue).value = true ↔ t ∈ waiting hist := by
  constructor
  · intro hcancel
    by_contra hgone
    have hnone : ∀ u ∈ waiting hist, u.handle ≠ t.handle := by
      intro u hu hsame
      rw [h.eq_of_handle_eq ((waiting_sublist hist).subset hu) ht hsame] at hu
      exact hgone hu
    rw [run_cancel_none _ (h.find?_of_none_waiting hnone)] at hcancel
    cases hcancel
  · intro hwaiting
    rw [run_cancel_some _ (h.find?_of_waiting hwaiting)]

end Kept

end Custody

theorem run_step_of_full {q : TimerQueue ν} {c : Call ν} {r : Request ν}
    (asks : c.request? = some r) (onClock : c.onClock = true) (full : q.length = capacity) :
    (step c).run q =
      ⟨.ok (.scheduled (.error .full)), q,
        [.warning .timerQueueFull, .settled .cancelled r.invocation]⟩ := by
  have hrun := run_insert_full r.start r.stop r.invocation full
  simp [step, onClock, perform_request asks, hrun]

theorem run_step_of_room {q : TimerQueue ν} {c : Call ν} {r : Request ν}
    (asks : c.request? = some r) (onClock : c.onClock = true) (room : q.length ≠ capacity) :
    ∃ h, ((step c).run q).value = .ok (.scheduled (.ok h)) := by
  rcases run_insert_ok r.start r.stop r.invocation room with ⟨slot, -, hrun⟩
  exact ⟨⟨q.nextSerial, slot⟩, by simp [step, onClock, perform_request asks, hrun]⟩

/-! ## The main statement -/

/-- After any turns, with fewer successful requests than there are serial numbers and all instants
on the clock: handles are distinct words; the pending tasks are the inserted ones that no turn
removed; a handle cancels the task inserted under it, and no other, exactly as long as that is
pending; a request is refused exactly when the queue is full, and then its invocation is cancelled
on the spot; every invocation offered is settled once, pending, or in hand, and the end of the queue
leaves nothing pending. -/
theorem invocations_are_settled_once (turns : List (Turn ν))
    (onClock : ∀ t ∈ turns, t.onClock = true)
    (few : (handles (history turns)).length < serialLimit) :
    let hist := history turns
    let q := (life turns).state.queue
    let inHand := (life turns).state.inHand
    let effects := (life turns).effects
    let allEffects := effects ++ (drop.run q).effects
    ((handles hist).map TimerHandle.word).Nodup ∧
      handles hist = (inserted hist).map (·.handle) ∧
      q.tasks.Perm (waiting hist) ∧
      q.length + (removed hist).length = (inserted hist).length ∧
      (∀ t ∈ inserted hist, ((cancel t.handle).run q).value = true ↔ t ∈ waiting hist) ∧
      (∀ t ∈ waiting hist,
        ((cancel t.handle).run q).effects = [.settled .cancelled t.invocation] ∧
          q.tasks.Perm (t :: ((cancel t.handle).run q).state.tasks)) ∧
      (∀ h, (∀ t ∈ waiting hist, t.handle ≠ h) → (cancel h).run q = ⟨false, q, []⟩) ∧
      (∀ c r, c.request? = some r → c.onClock = true →
        (((step c).run q).value = .ok (.scheduled (.error .full)) ↔ q.length = capacity) ∧
          (q.length = capacity →
            (step c).run q = ⟨.ok (.scheduled (.error .full)), q,
              [.warning .timerQueueFull, .settled .cancelled r.invocation]⟩)) ∧
      (offered hist).Perm
        (TimerEffect.disposed effects ++ (q.tasks.map (·.invocation) ++ inHand)) ∧
      (offered hist).Perm (TimerEffect.disposed allEffects ++ inHand) ∧
      ((offered hist).Nodup → (TimerEffect.disposed allEffects).Nodup) := by
  intro hist q inHand effects allEffects
  have hkept : Kept hist effects (life turns).state := kept_life turns onClock few
  have hend : (offered hist).Perm (TimerEffect.disposed allEffects ++ inHand) := by
    simp only [allEffects, drop, run_clear, TimerEffect.disposed_append, TimerEffect.disposed_map,
      List.append_assoc]
    exact hkept.balance
  refine ⟨hkept.handles_nodup.map TimerHandle.word_injective, hkept.handed, hkept.tasks, ?_, ?_, ?_,
    ?_, ?_, hkept.balance, hend, ?_⟩
  · rw [hkept.length_waiting]
    exact length_waiting_add_removed hist
  · intro t ht
    exact hkept.cancel_eq_true_iff ht
  · intro t ht
    rw [run_cancel_some _ (hkept.find?_of_waiting ht)]
    exact ⟨rfl, tasks_vacate hkept.seated (hkept.tasks.mem_iff.2 ht)⟩
  · intro h hnone
    exact run_cancel_none h (hkept.find?_of_none_waiting hnone)
  · intro c r asks clocked
    refine ⟨⟨fun hrefused => ?_, fun hfull => ?_⟩, run_step_of_full asks clocked⟩
    · by_contra hroom
      rcases run_step_of_room asks clocked hroom with ⟨h, hgranted⟩
      rw [hgranted] at hrefused
      cases hrefused
    · rw [run_step_of_full asks clocked hfull]
  · intro hdistinct
    exact (List.nodup_append.1 (hend.nodup_iff.1 hdistinct)).1

/-- The first task is cancelled and its slot used again, so its handle is stale; the second is taken
over and dropped, and the third is still pending when the queue goes away. -/
theorem invocations_are_settled_once_on_reuse :
    let first : TimerHandle := ⟨0, ⟨0, by decide⟩⟩
    let turns : List (Turn Nat) :=
      [.call (.insert ⟨0⟩ ⟨5⟩ ⟨10, true⟩), .call (.insertAfter ⟨0⟩ ⟨1⟩ ⟨2⟩ ⟨11, true⟩),
        .call (.cancel first), .call (.insert ⟨9⟩ ⟨9⟩ ⟨12, false⟩), .takeOver ⟨3⟩,
        .settle 0 .drop]
    let hist := history turns
    let q := (life turns).state.queue
    (∀ t ∈ turns, t.onClock = true) ∧ (handles hist).length < serialLimit ∧
      (handles hist).map TimerHandle.word = [0, 65, 128] ∧
      q.length = 1 ∧ ((cancel first).run q).value = false ∧
      (TimerEffect.disposed ((life turns).effects ++ (drop.run q).effects)).Perm
        [⟨10, true⟩, ⟨11, true⟩, ⟨12, false⟩] := by
  intro first turns hist q
  have honClock : ∀ t ∈ turns, t.onClock = true := by decide
  have hfew : (handles hist).length < serialLimit := by decide +kernel
  rcases invocations_are_settled_once turns honClock hfew with
    ⟨-, -, htasks, -, hcancel, -, -, -, -, hend, -⟩
  have hwaiting : (waiting hist).length = 1 := by decide +kernel
  have hinserted : (⟨first, ⟨0⟩, ⟨5⟩, ⟨10, true⟩⟩ : TimerTask Nat) ∈ inserted hist := by
    decide +kernel
  have hgone : (⟨first, ⟨0⟩, ⟨5⟩, ⟨10, true⟩⟩ : TimerTask Nat) ∉ waiting hist := by
    decide +kernel
  have hoffered : offered hist = [⟨10, true⟩, ⟨11, true⟩, ⟨12, false⟩] := by decide +kernel
  have hempty : (life turns).state.inHand = [] := by decide +kernel
  refine ⟨honClock, hfew, by decide +kernel, htasks.length_eq.trans hwaiting, ?_, ?_⟩
  · exact Bool.eq_false_iff.2 fun htrue => hgone ((hcancel _ hinserted).1 htrue)
  · rw [hempty, List.append_nil, hoffered] at hend
    exact hend.symm

end TimerQueue
end WindowRelay

import Mathlib.Data.List.Basic
import WindowRelay.Proofs.Timer.Tasks

/-!
# History — what the turns of a queue amount to

A queue is used in turns: it is called, or its runnable tasks are taken over and their invocations
settled one by one, at any later turn.  What should come of a list of turns is read off the turns
and their replies alone, without slots and serial numbers:

- `handles`, `inserted`, `offered`: what was handed out, scheduled and put forward;
- `waiting`, `removed`: the inserted tasks that no later turn removes, and the others;
- `Custody`, `Custody.turn`: the queue together with the invocations in hand, turn by turn;
- `Turned`: what one turn does to tasks, serial numbers and invocations.

`Custody.turned` proves the last of every turn.
-/

namespace WindowRelay

/-! ## Settlements -/

namespace TimerEffect

variable {ν : Type}

/-- The invocations that were fired or cancelled, once for every time they were. -/
def disposed (es : List (TimerEffect ν)) : List (Invocation ν) :=
  (es.filterMap settled?).map Prod.snd

@[simp]
theorem disposed_nil : disposed ([] : List (TimerEffect ν)) = [] :=
  rfl

@[simp]
theorem disposed_append (es fs : List (TimerEffect ν)) :
    disposed (es ++ fs) = disposed es ++ disposed fs := by
  simp [disposed]

theorem disposed_map {κ : Type} (how : Settlement) (f : κ → Invocation ν) (cs : List κ) :
    disposed (cs.map fun c => .settled how (f c)) = cs.map f := by
  induction cs with
  | nil => rfl
  | cons c cs ih => exact congrArg (f c :: ·) ih

end TimerEffect

namespace Invocation

variable {ν σ : Type}

def disposal : Disposal → Invocation ν → List (TimerEffect ν)
  | .fire, i => [.settled .fired i]
  | .cancel, i => [.settled .cancelled i]
  | .drop, i => [.warning .invocationDropped, .settled .cancelled i]

theorem run_dispose (how : Disposal) (i : Invocation ν) (s : σ) :
    (dispose how i).run s = ⟨(), s, disposal how i⟩ := by
  cases how <;> rfl

/-- An invocation is settled once, however it is disposed of. -/
theorem disposed_disposal (how : Disposal) (i : Invocation ν) :
    TimerEffect.disposed (disposal how i) = [i] := by
  cases how <;> rfl

theorem disposed_disposals {κ : Type} (how : Disposal) (f : κ → Invocation ν) (cs : List κ) :
    TimerEffect.disposed (cs.flatMap fun c => disposal how (f c)) = cs.map f := by
  induction cs with
  | nil => rfl
  | cons c cs ih => simp [disposed_disposal, ih]

end Invocation

namespace TimerQueue

variable {ν : Type}

/-! ## Turns -/

inductive Turn (ν : Type)
  | call (c : Call ν)
  /-- The runnable tasks are taken over, and their invocations are kept in hand. -/
  | takeOver (now : Time)
  /-- An invocation in hand is used up. -/
  | settle (index : Nat) (how : Invocation.Disposal)
  deriving DecidableEq, Repr

/-- What a call asks to schedule: a window of time and an invocation. -/
structure Request (ν : Type) where
  start : Time
  stop : Time
  invocation : Invocation ν

def Call.request? : Call ν → Option (Request ν)
  | .insert start stop i => some ⟨start, stop, i⟩
  | .insertAfter now begins ends i => some ⟨now + begins, now + ends, i⟩
  | _ => none

def Request.task (r : Request ν) (h : TimerHandle) : TimerTask ν :=
  ⟨h, r.start, max r.stop r.start, r.invocation⟩

/-- Both ways to schedule come down to one. -/
theorem perform_request {c : Call ν} {r : Request ν} (asks : c.request? = some r) :
    perform c = Reply.scheduled <$> insert r.start r.stop r.invocation := by
  cases c <;> cases asks <;> rfl

section Performed

variable {q : TimerQueue ν}

theorem perform_cancel_none {h : TimerHandle} (gone : q.find? h = none) :
    (perform (.cancel h)).run q = ⟨.cancelled false, q, []⟩ := by
  simp [perform, run_cancel_none h gone]

theorem perform_cancel_some {h : TimerHandle} {t : TimerTask ν} (pending : q.find? h = some t) :
    (perform (.cancel h)).run q =
      ⟨.cancelled true, q.vacate h.slot, [.settled .cancelled t.invocation]⟩ := by
  simp [perform, run_cancel_some h pending]

theorem perform_poll (now : Time) :
    (perform (.poll now)).run q =
      ⟨.fired (q.runnable now).length, q.withoutRunnable now,
        (q.runnable now).map fun t => .settled .fired t.invocation⟩ := by
  simp [perform, run_poll]

theorem perform_clear :
    (perform .clear).run q =
      ⟨.done, q.emptied, q.tasks.map fun t => .settled .cancelled t.invocation⟩ := by
  simp [perform, run_clear]

end Performed

/-- The handle that a reply hands out. -/
def handle? : Except Fault Reply → Option TimerHandle
  | .ok (.scheduled (.ok h)) => some h
  | _ => none

namespace Turn

def onClock : Turn ν → Bool
  | .call c => c.onClock
  | _ => true

def request? : Turn ν → Option (Request ν)
  | .call c => c.request?
  | _ => none

/-- The task that a turn schedules, under the handle it replies with. -/
def task? (t : Turn ν) (reply : Except Fault Reply) : Option (TimerTask ν) :=
  t.request?.bind fun r => (handle? reply).map r.task

/-- Whether a turn takes a pending task out of the queue. -/
def removes (u : TimerTask ν) : Turn ν → Bool
  | .call (.cancel h) => decide (u.handle = h)
  | .call (.poll now) => u.isRunnable now
  | .call (.drain now _) => u.isRunnable now
  | .call .clear => true
  | .takeOver now => u.isRunnable now
  | _ => false

end Turn

/-! ## Histories -/

/-- The turns so far, each with its reply, the oldest first. -/
abbrev History (ν : Type) : Type :=
  List (Turn ν × Except Fault Reply)

def handles (hist : History ν) : List TimerHandle :=
  hist.filterMap fun entry => handle? entry.2

def inserted (hist : History ν) : List (TimerTask ν) :=
  hist.filterMap fun entry => entry.1.task? entry.2

/-- The invocations of all requests, whether or not there was room for them. -/
def offered (hist : History ν) : List (Invocation ν) :=
  hist.filterMap fun entry => entry.1.request?.map Request.invocation

/-- The inserted tasks that no later turn removes, in the order of insertion. -/
def waiting : History ν → List (TimerTask ν)
  | [] => []
  | entry :: later =>
      ((entry.1.task? entry.2).toList.filter fun u => later.all fun e => !e.1.removes u) ++
        waiting later

/-- The inserted tasks that a later turn removes, in the order of insertion. -/
def removed : History ν → List (TimerTask ν)
  | [] => []
  | entry :: later =>
      ((entry.1.task? entry.2).toList.filter fun u => later.any fun e => e.1.removes u) ++
        removed later

/-- Every inserted task is either waiting or removed. -/
theorem length_waiting_add_removed (hist : History ν) :
    (waiting hist).length + (removed hist).length = (inserted hist).length := by
  induction hist with
  | nil => rfl
  | cons entry later ih =>
      have hsplit := List.length_eq_length_filter_add (l := (entry.1.task? entry.2).toList)
        fun u => later.all fun e => !e.1.removes u
      have hlater (u : TimerTask ν) :
          (!later.all fun e => !e.1.removes u) = later.any fun e => e.1.removes u := by
        simp [List.not_all_eq_any_not]
      have hinserted : inserted (entry :: later) =
          (entry.1.task? entry.2).toList ++ inserted later := by
        cases htask : entry.1.task? entry.2 <;> simp [inserted, htask]
      simp only [hlater] at hsplit
      simp only [waiting, removed, hinserted, List.length_append]
      omega

/-- One more turn removes some of the waiting tasks, and may add one. -/
theorem waiting_snoc (hist : History ν) (t : Turn ν) (reply : Except Fault Reply) :
    waiting (hist ++ [(t, reply)]) =
      ((waiting hist).filter fun u => !t.removes u) ++ (t.task? reply).toList := by
  induction hist with
  | nil =>
      simp [waiting]
  | cons entry later ih =>
      simp [waiting, ih, List.filter_filter, Bool.and_comm]

/-! ## One turn -/

/-- A queue, and the invocations taken over from it that are not used up. -/
structure Custody (ν : Type) where
  queue : TimerQueue ν
  inHand : List (Invocation ν)

namespace Custody

def start : Custody ν :=
  ⟨empty, []⟩

def onQueue {α : Type} (m : Op ν α) : Action (TimerEffect ν) (Custody ν) α :=
  Action.within Custody.queue (fun k q => { k with queue := q }) m

def turn : Turn ν → Action (TimerEffect ν) (Custody ν) (Except Fault Reply)
  | .call c => onQueue (step c)
  | .takeOver now => do
      let ts ← onQueue (drain now)
      modify fun k => { k with inHand := k.inHand ++ ts.map (·.invocation) }
      pure (.ok (.drained (ts.map (·.handle))))
  | .settle index how => do
      let k ← get
      match k.inHand[index]? with
      | none => pure (.ok .done)
      | some i => do
          set { k with inHand := k.inHand.eraseIdx index }
          Invocation.dispose how i
          pure (.ok .done)

/-- The invocations that are still to be settled: of pending tasks, and in hand. -/
def unsettled (k : Custody ν) : List (Invocation ν) :=
  k.queue.tasks.map (·.invocation) ++ k.inHand

/-- What a turn does.  Tasks are removed and added, serial numbers are used up one by one, and an
invocation that was offered or unsettled is settled by the turn or unsettled after it. -/
structure Turned (t : Turn ν) (k : Custody ν)
    (o : Outcome (TimerEffect ν) (Custody ν) (Except Fault Reply)) : Prop where
  seated : o.state.queue.Seated
  tasks : o.state.queue.tasks.Perm
    ((k.queue.tasks.filter fun u => !t.removes u) ++ (t.task? o.value).toList)
  serials : (handle? o.value = none ∧ o.state.queue.nextSerial = k.queue.nextSerial) ∨
    ∃ u, t.task? o.value = some u ∧ handle? o.value = some u.handle ∧
      u.handle.serial = k.queue.nextSerial ∧
      o.state.queue.nextSerial = (k.queue.nextSerial + 1) % serialLimit
  balance : ((t.request?.map Request.invocation).toList ++ k.unsettled).Perm
    (TimerEffect.disposed o.effects ++ o.state.unsettled)

namespace Turned

variable {t : Turn ν} {k : Custody ν} {q : TimerQueue ν} {reply : Except Fault Reply}

/-- A turn that hands out no handle removes tasks at most.  The invocations of the removed tasks
and those that were in hand are settled, or in hand after it. -/
theorem of_removal {inHand : List (Invocation ν)} {es : List (TimerEffect ν)}
    (asksNothing : t.request? = none) (handsOut : handle? reply = none) (seated : q.Seated)
    (tasks : q.tasks.Perm (k.queue.tasks.filter fun u => !t.removes u))
    (serial : q.nextSerial = k.queue.nextSerial)
    (gone : ((k.queue.tasks.filter fun u => t.removes u).map (·.invocation) ++ k.inHand).Perm
      (TimerEffect.disposed es ++ inHand)) :
    Turned t k ⟨reply, ⟨q, inHand⟩, es⟩ where
  seated := seated
  tasks := by
    simpa [Turn.task?, asksNothing] using tasks
  serials := .inl ⟨handsOut, serial⟩
  balance := by
    have hsplit : (k.queue.tasks.map (·.invocation)).Perm
        ((k.queue.tasks.filter fun u => t.removes u).map (·.invocation) ++
          q.tasks.map (·.invocation)) := by
      rw [← List.map_append]
      exact ((List.filter_append_perm _ _).symm.trans (tasks.symm.append_left _)).map _
    have hswap (as bs cs : List (Invocation ν)) : (as ++ bs ++ cs).Perm (as ++ cs ++ bs) := by
      simpa using List.perm_append_comm.append_left as
    have hbefore := (hsplit.append_right k.inHand).trans (hswap _ _ _)
    have hafter := hbefore.trans ((gone.append_right _).trans (hswap _ _ _))
    rw [List.append_assoc] at hafter
    rw [asksNothing]
    exact hafter

/-- A turn that touches no task and offers nothing. -/
theorem of_rest {inHand : List (Invocation ν)} {es : List (TimerEffect ν)}
    (asksNothing : t.request? = none) (handsOut : handle? reply = none)
    (seated : k.queue.Seated) (keeps : ∀ u ∈ k.queue.tasks, t.removes u = false)
    (settles : k.inHand.Perm (TimerEffect.disposed es ++ inHand)) :
    Turned t k ⟨reply, ⟨k.queue, inHand⟩, es⟩ := by
  have hkept : (k.queue.tasks.filter fun u => !t.removes u) = k.queue.tasks :=
    List.filter_eq_self.2 fun u hu => by simp [keeps u hu]
  have hgone : (k.queue.tasks.filter fun u => t.removes u) = [] :=
    List.filter_eq_nil_iff.2 fun u hu => by simp [keeps u hu]
  refine of_removal asksNothing handsOut seated ?_ rfl ?_
  · rw [hkept]
  · rw [hgone]
    exact settles

/-- A request is refused, and its invocation cancelled, only by a full queue. -/
theorem of_refusal {r : Request ν} (asks : t.request? = some r) (handsOut : handle? reply = none)
    (seated : k.queue.Seated) (keeps : ∀ u, t.removes u = false) :
    Turned t k ⟨reply, k, [.warning .timerQueueFull, .settled .cancelled r.invocation]⟩ where
  seated := seated
  tasks := by
    simp [Turn.task?, asks, handsOut, keeps]
  serials := .inl ⟨handsOut, rfl⟩
  balance := by
    rw [asks]
    exact .refl _

theorem of_grant {r : Request ν} {h : TimerHandle} (asks : t.request? = some r)
    (handsOut : handle? reply = some h) (seated : k.queue.Seated)
    (keeps : ∀ u, t.removes u = false) (free : k.queue.occupant h.slot = none)
    (serial : h.serial = k.queue.nextSerial) :
    Turned t k ⟨reply, { k with queue := k.queue.seat (r.task h) }, []⟩ where
  seated := seated_seat seated (r.task h)
  tasks := by
    have hseat := tasks_seat (t := r.task h) free
    simpa [Turn.task?, asks, handsOut, keeps] using
      hseat.trans (List.perm_append_singleton _ _).symm
  serials := by
    exact .inr ⟨r.task h, by simp [Turn.task?, asks, handsOut], handsOut, serial, rfl⟩
  balance := by
    have hseat := tasks_seat (t := r.task h) free
    simpa [asks, unsettled, Request.task] using ((hseat.map (·.invocation)).append_right k.inHand).symm

end Turned

/-! ## Every turn -/

variable {k : Custody ν}

/-- A call of the queue whose instants the clock has. -/
theorem run_call {c : Call ν} {reply : Reply} {q : TimerQueue ν} {es : List (TimerEffect ν)}
    (onClock : c.onClock = true) (h : (perform c).run k.queue = ⟨reply, q, es⟩) :
    (turn (.call c)).run k = ⟨.ok reply, { k with queue := q }, es⟩ := by
  simp [turn, onQueue, step, onClock, h]

theorem turned_request {c : Call ν} {r : Request ν} (asks : c.request? = some r)
    (onClock : c.onClock = true) (seated : k.queue.Seated) :
    Turned (.call c) k ((turn (.call c)).run k) := by
  have hkeeps (u : TimerTask ν) : (Turn.call c).removes u = false := by
    cases c <;> first | rfl | cases asks
  by_cases hfull : k.queue.length = capacity
  · have hrun := run_insert_full r.start r.stop r.invocation hfull
    rw [run_call onClock (by rw [perform_request asks, Action.run_map, hrun])]
    exact .of_refusal asks rfl seated hkeeps
  · rcases run_insert_ok r.start r.stop r.invocation hfull with ⟨slot, hfree, hrun⟩
    rw [run_call onClock (by rw [perform_request asks, Action.run_map, hrun])]
    exact .of_grant asks rfl seated hkeeps hfree rfl

theorem turned_cancel (h : TimerHandle) (seated : k.queue.Seated) :
    Turned (.call (.cancel h)) k ((turn (.call (.cancel h))).run k) := by
  cases hfind : k.queue.find? h with
  | none =>
      rw [run_call rfl (perform_cancel_none hfind)]
      refine .of_rest rfl rfl seated (fun u hu => ?_) (.refl _)
      simpa [Turn.removes] using (find?_eq_none_iff seated).1 hfind u hu
  | some t =>
      rcases (find?_eq_some_iff seated).1 hfind with ⟨ht, rfl⟩
      rw [run_call rfl (perform_cancel_some hfind)]
      refine .of_removal rfl rfl (seated_vacate seated _) (filter_handle_ne seated ht) rfl ?_
      exact ((filter_handle_eq seated ht).map (·.invocation)).append_right _

/-- The runnable tasks leave the queue, and their invocations go where `gone` says. -/
theorem Turned.of_drain {t : Turn ν} {now : Time} {reply : Except Fault Reply}
    {inHand : List (Invocation ν)} {es : List (TimerEffect ν)} (asksNothing : t.request? = none)
    (handsOut : handle? reply = none) (removes : ∀ u, t.removes u = u.isRunnable now)
    (seated : k.queue.Seated)
    (gone : ((k.queue.runnable now).map (·.invocation) ++ k.inHand).Perm
      (TimerEffect.disposed es ++ inHand)) :
    Turned t k ⟨reply, ⟨k.queue.withoutRunnable now, inHand⟩, es⟩ := by
  refine .of_removal asksNothing handsOut (seated_withoutRunnable seated now) ?_ rfl ?_
  · simp only [removes, tasks_withoutRunnable]
    exact .refl _
  · simp only [removes]
    exact (((runnable_perm now).symm.map _).append_right _).trans gone

theorem turned_poll {now : Time} (onClock : (Call.poll now : Call ν).onClock = true)
    (seated : k.queue.Seated) : Turned (.call (.poll now)) k ((turn (.call (.poll now))).run k) := by
  rw [run_call onClock (perform_poll now)]
  refine .of_drain rfl rfl (fun _ => rfl) seated ?_
  rw [TimerEffect.disposed_map]

theorem turned_drain {now : Time} {how : Invocation.Disposal}
    (onClock : (Call.drain now how : Call ν).onClock = true) (seated : k.queue.Seated) :
    Turned (.call (.drain now how)) k ((turn (.call (.drain now how))).run k) := by
  have hdispose := Action.run_each (σ := TimerQueue ν)
    (m := fun t : TimerTask ν => Invocation.dispose how t.invocation)
    (fun t q => Invocation.run_dispose how t.invocation q)
  have hrun : (perform (.drain now how)).run k.queue =
      ⟨.drained ((k.queue.runnable now).map (·.handle)), k.queue.withoutRunnable now,
        (k.queue.runnable now).flatMap fun t => Invocation.disposal how t.invocation⟩ := by
    simp [perform, run_drain, hdispose]
  rw [run_call onClock hrun]
  refine .of_drain rfl rfl (fun _ => rfl) seated ?_
  rw [Invocation.disposed_disposals]

theorem turned_clear : Turned (.call .clear) k ((turn (.call .clear)).run k) := by
  rw [run_call rfl perform_clear]
  have hall : (k.queue.tasks.filter fun u => (Turn.call .clear).removes u) = k.queue.tasks :=
    List.filter_eq_self.2 fun _ _ => rfl
  refine .of_removal rfl rfl (seated_emptied _) ?_ rfl ?_
  · simp [Turn.removes]
  · rw [hall, TimerEffect.disposed_map]

theorem turned_takeOver (now : Time) (seated : k.queue.Seated) :
    Turned (.takeOver now) k ((turn (.takeOver now)).run k) := by
  have hrun : (turn (.takeOver now)).run k =
      ⟨.ok (.drained ((k.queue.runnable now).map (·.handle))),
        ⟨k.queue.withoutRunnable now, k.inHand ++ (k.queue.runnable now).map (·.invocation)⟩,
        []⟩ := by
    simp [turn, onQueue, run_drain]
  rw [hrun]
  exact .of_drain rfl rfl (fun _ => rfl) seated List.perm_append_comm

theorem turned_settle (index : Nat) (how : Invocation.Disposal) (seated : k.queue.Seated) :
    Turned (.settle index how) k ((turn (.settle index how)).run k) := by
  cases hindex : k.inHand[index]? with
  | none =>
      have hrun : (turn (.settle index how)).run k = ⟨.ok .done, k, []⟩ := by
        simp [turn, hindex]
      rw [hrun]
      exact .of_rest rfl rfl seated (fun _ _ => rfl) (.refl _)
  | some i =>
      have hrun : (turn (.settle index how)).run k =
          ⟨.ok .done, { k with inHand := k.inHand.eraseIdx index },
            Invocation.disposal how i⟩ := by
        simp [turn, hindex, Invocation.run_dispose]
      rw [hrun]
      refine .of_rest rfl rfl seated (fun _ _ => rfl) ?_
      rw [Invocation.disposed_disposal]
      exact perm_of_getElem? hindex

/-- Every turn whose instants the clock has does what `Turned` says. -/
theorem turned (t : Turn ν) (onClock : t.onClock = true) (seated : k.queue.Seated) :
    Turned t k ((turn t).run k) := by
  cases t with
  | call c =>
      cases c with
      | insert start stop i => exact turned_request rfl onClock seated
      | insertAfter now begins ends i => exact turned_request rfl onClock seated
      | cancel h => exact turned_cancel h seated
      | poll now => exact turned_poll onClock seated
      | drain now how => exact turned_drain onClock seated
      | clear => exact turned_clear
  | takeOver now => exact turned_takeOver now seated
  | settle index how => exact turned_settle index how seated

end Custody

end TimerQueue
end WindowRelay

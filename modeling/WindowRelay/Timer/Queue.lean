import WindowRelay.Time
import WindowRelay.Timer.Invocation

/-!
# Timer queue

A queue of at most 64 tasks.  A task may run from its start on and should run by its deadline, so
the queue asks to be woken at the earliest deadline: by then the most tasks can run together.

Tasks live in slots, and a new task takes the first free one.  A `TimerHandle` pairs the slot with
a serial number that grows with every task, so a handle whose task is gone does not refer to the
next task in the same slot.
-/

namespace WindowRelay

namespace TimerQueue

def capacity : Nat :=
  64

/-- Serial numbers fill what a 64-bit handle leaves beside the slot. -/
def serialLimit : Nat :=
  Nat.pow 2 58

/-- The origin of all instants is at least this many seconds after the clock's own. -/
def clockLead : Nat :=
  1000

/-- The clock counts seconds from its own origin, in a signed 64-bit number.  The instants it can
represent are below this many seconds. -/
def clockLimit : Nat :=
  Nat.pow 2 63 - clockLead

end TimerQueue

structure TimerHandle where
  serial : Nat
  slot : Fin TimerQueue.capacity
  deriving DecidableEq, Repr

/-- A handle as one word: the slot in the low bits. -/
def TimerHandle.word (h : TimerHandle) : Nat :=
  h.serial * TimerQueue.capacity + h.slot

structure TimerTask (ν : Type) where
  handle : TimerHandle
  start : Time
  deadline : Time
  invocation : Invocation ν
  deriving DecidableEq, Repr

namespace TimerTask

variable {ν : Type}

def isRunnable (now : Time) (t : TimerTask ν) : Bool :=
  decide (t.start ≤ now)

/-- By start, and in order of insertion for equal starts. -/
def runsBefore (a b : TimerTask ν) : Bool :=
  decide (a.start < b.start ∨ (a.start = b.start ∧ a.handle.serial ≤ b.handle.serial))

end TimerTask

/-- Why a task was not scheduled. -/
inductive TimerRefusal
  | full
  deriving DecidableEq, Repr

def TimerRefusal.message : TimerRefusal → String
  | .full => "the queue is full (" ++ toString TimerQueue.capacity ++ " entries)"

structure TimerQueue (ν : Type) where
  slots : Vector (Option (TimerTask ν)) TimerQueue.capacity
  nextSerial : Nat
  deriving DecidableEq, Repr

namespace TimerQueue

variable {ν : Type}

def empty : TimerQueue ν :=
  ⟨Vector.replicate capacity none, 0⟩

/-! ## Views -/

/-- The pending tasks in slot order. -/
def tasks (q : TimerQueue ν) : List (TimerTask ν) :=
  q.slots.toList.filterMap id

def length (q : TimerQueue ν) : Nat :=
  q.tasks.length

def isEmpty (q : TimerQueue ν) : Bool :=
  q.tasks.isEmpty

def freeSlot? (q : TimerQueue ν) : Option (Fin capacity) :=
  q.slots.findFinIdx? (·.isNone)

/-- The time to wake up at to run the next batch. -/
def nextWakeup (q : TimerQueue ν) : Option Time :=
  (q.tasks.map (·.deadline)).min?

/-! ## Operations -/

abbrev Op (ν α : Type) : Type :=
  Action (TimerEffect ν) (TimerQueue ν) α

/-- Schedule an invocation.  A window that ends before it starts ends at its start.  A full queue
cancels the invocation at once. -/
def insert (start stop : Time) (i : Invocation ν) : Op ν (Except TimerRefusal TimerHandle) := do
  let q ← get
  match q.freeSlot? with
  | none => do
      Action.emit (.warning .timerQueueFull)
      i.cancel
      pure (.error .full)
  | some slot => do
      let handle : TimerHandle := ⟨q.nextSerial, slot⟩
      let task : TimerTask ν := ⟨handle, start, max stop start, i⟩
      modify fun q => ⟨q.slots.set slot (some task), (q.nextSerial + 1) % serialLimit⟩
      pure (.ok handle)

/-- Schedule an invocation by delays counted from an instant. -/
def insertAfter (now begins ends : Time) (i : Invocation ν) :
    Op ν (Except TimerRefusal TimerHandle) :=
  insert (now + begins) (now + ends) i

/-- The pending task of a handle. -/
def find? (q : TimerQueue ν) (h : TimerHandle) : Option (TimerTask ν) :=
  match q.slots[h.slot] with
  | none => none
  | some t => if t.handle = h then some t else none

/-- Cancel the task of a handle.  Answers whether it was still pending. -/
def cancel (h : TimerHandle) : Op ν Bool := do
  let q ← get
  match q.find? h with
  | none => pure false
  | some t => do
      modify fun q => { q with slots := q.slots.set h.slot none }
      t.invocation.cancel
      pure true

/-- The runnable tasks in the order they run. -/
def runnable (now : Time) (q : TimerQueue ν) : List (TimerTask ν) :=
  (q.tasks.filter (TimerTask.isRunnable now)).mergeSort TimerTask.runsBefore

/-- The queue without its runnable tasks. -/
def withoutRunnable (now : Time) (q : TimerQueue ν) : TimerQueue ν :=
  { q with slots := q.slots.map fun slot => slot.filter fun t => !t.isRunnable now }

/-- Take over every runnable task. -/
def drain (now : Time) : Op ν (List (TimerTask ν)) :=
  modifyGet fun q => (q.runnable now, q.withoutRunnable now)

/-- Fire every runnable task.  Answers how many there were. -/
def poll (now : Time) : Op ν Nat := do
  let ts ← drain now
  Action.each (fun t => t.invocation.fire) ts
  pure ts.length

def clear : Op ν Unit := do
  let q ← get
  modify fun q => { q with slots := Vector.replicate capacity none }
  Action.each (fun t => t.invocation.cancel) q.tasks

/-- The queue itself goes away. -/
def drop : Op ν Unit :=
  clear

/-! ## Calls -/

inductive Call (ν : Type)
  | insert (start stop : Time) (invocation : Invocation ν)
  | insertAfter (now begins ends : Time) (invocation : Invocation ν)
  | cancel (handle : TimerHandle)
  | poll (now : Time)
  | drain (now : Time) (disposal : Invocation.Disposal)
  | clear
  deriving DecidableEq, Repr

/-- The instants that a call is about. -/
def Call.instants : Call ν → List Time
  | .insert start stop _ => [start, stop]
  | .insertAfter now begins ends _ => [now, now + begins, now + ends]
  | .poll now => [now]
  | .drain now _ => [now]
  | .cancel _ | .clear => []

/-- Whether the clock has all instants that a call is about. -/
def Call.onClock (c : Call ν) : Bool :=
  c.instants.all fun t => decide (t.secs < clockLimit)

inductive Reply
  | done
  | scheduled (result : Except TimerRefusal TimerHandle)
  | cancelled (yes : Bool)
  | fired (count : Nat)
  | drained (handles : List TimerHandle)

def perform : Call ν → Op ν Reply
  | .insert start stop i => do
      let r ← insert start stop i
      pure (.scheduled r)
  | .insertAfter now begins ends i => do
      let r ← insertAfter now begins ends i
      pure (.scheduled r)
  | .cancel h => do
      let yes ← cancel h
      pure (.cancelled yes)
  | .poll now => do
      let n ← poll now
      pure (.fired n)
  | .drain now disposal => do
      let ts ← drain now
      Action.each (fun t => Invocation.dispose disposal t.invocation) ts
      pure (.drained (ts.map (·.handle)))
  | .clear => do
      clear
      pure .done

/-- A call is carried out if the clock has its instants. -/
def step (c : Call ν) : Op ν (Except Fault Reply) :=
  if c.onClock then .ok <$> perform c else pure (.error .clockOverflow)

end TimerQueue

end WindowRelay

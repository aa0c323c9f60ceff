import WindowRelay.Dispatcher.Basic

/-!
# Keeper — capabilities held by hand

Capabilities can be held by anyone, and may outlive the line to the listener.  A `Keeper` is a
dispatcher together with all capabilities it handed out, by index, until each is used up.
-/

namespace WindowRelay

inductive Held
  | drag (c : Capability .drag)
  | scroll (c : Capability .scroll)
  deriving DecidableEq, Repr

namespace Held

def window : Held → WindowId
  | .drag c => c.window
  | .scroll c => c.window

def describe : Held → String
  | .drag c => c.describe
  | .scroll c => c.describe

def finish {K : Type} (how : Ending) : Held → Act K (Dispatcher K) Unit
  | .drag c => c.finish how
  | .scroll c => c.finish how

def drop {K : Type} : Held → Act K (Dispatcher K) Unit
  | .drag c => c.drop
  | .scroll c => c.drop

end Held

structure Keeper (K : Type) where
  dispatcher : Dispatcher K
  /-- The capabilities in the order they were handed out, without the ones used up. -/
  held : List (Option Held)

namespace Keeper

variable {K : Type}

def ofDispatcher (d : Dispatcher K) : Keeper K :=
  ⟨d, []⟩

/-! ## Calls -/

/-- A call on a held capability.  The terminal ones use it up. -/
inductive Handling (K : Type)
  | dragMotion (position : Point K)
  | mouseDown (position : Point K) (button : MouseButton)
  | mouseUp (position : Point K) (button : MouseButton)
  | scrollMotion (precise : Bool) (delta velocity : Delta K)
  | startMomentum
  | finishScroll
  | finish (how : Ending)
  | drop
  deriving DecidableEq, Repr

inductive Call (K : Type)
  | shouldClose
  | closed
  | notify (c : Callback K)
  | hitTest (position : Point K)
  | scroll (event : ScrollEvent K)
  | text (c : InputMethod.Call K)
  | beginDrag (position : Point K) (button : MouseButton)
  | beginScroll (position : Point K)
  | handle (index : Nat) (h : Handling K)
  | dropDispatcher
  deriving DecidableEq, Repr

inductive Reply (K : Type)
  | done
  | granted (yes : Bool)
  | hit (h : NcHit)
  | kept (index : Option Nat)
  | text (reply : Option (Except Fault (InputMethod.Reply K)))

def dispatch {α : Type} (m : Act K (Dispatcher K) α) : Act K (Keeper K) α :=
  Action.within Keeper.dispatcher (fun k d => { k with dispatcher := d }) m

/-- Keep a capability that was handed out, under the next index. -/
def keep (c : Option Held) : Act K (Keeper K) (Option Nat) := do
  match c with
  | none => pure none
  | some c => do
      let k ← get
      set { k with held := k.held ++ [some c] }
      pure (some k.held.length)

def useUp (index : Nat) : Act K (Keeper K) Unit :=
  modify fun k => { k with held := k.held.set index none }

/-- A call on a capability; calls of the other kind of session do nothing. -/
def handle (index : Nat) (c : Held) : Handling K → Act K (Keeper K) Unit
  | .finish how => do
      useUp index
      dispatch (c.finish how)
  | .drop => do
      useUp index
      dispatch c.drop
  | .dragMotion p =>
      match c with
      | .drag c => dispatch (c.drag (.motion p))
      | .scroll _ => pure ()
  | .mouseDown p b =>
      match c with
      | .drag c => dispatch (c.drag (.mouseDown p b))
      | .scroll _ => pure ()
  | .mouseUp p b =>
      match c with
      | .drag c => dispatch (c.drag (.mouseUp p b))
      | .scroll _ => pure ()
  | .scrollMotion precise d v =>
      match c with
      | .drag _ => pure ()
      | .scroll c => dispatch (c.scroll (.motion precise d v))
  | .startMomentum =>
      match c with
      | .drag _ => pure ()
      | .scroll c => dispatch (c.scroll .startMomentum)
  | .finishScroll =>
      match c with
      | .drag _ => pure ()
      | .scroll c => dispatch (c.scroll .finish)

/-- The capability under an index, unless it is used up. -/
def held? (k : Keeper K) (index : Nat) : Option Held :=
  k.held[index]?.join

def step : Call K → Act K (Keeper K) (Reply K)
  | .shouldClose => do
      let yes ← dispatch Dispatcher.shouldClose
      pure (.granted yes)
  | .closed => do
      dispatch Dispatcher.closed
      pure .done
  | .notify c => do
      dispatch (Dispatcher.notify c)
      pure .done
  | .hitTest p => do
      let h ← dispatch (Dispatcher.hitTest p)
      pure (.hit h)
  | .scroll e => do
      dispatch (Dispatcher.scroll e)
      pure .done
  | .text c => do
      let reply ← dispatch (Dispatcher.edit (InputMethod.step c))
      pure (.text reply)
  | .beginDrag p b => do
      let c ← dispatch (Dispatcher.beginDrag p b)
      let index ← keep (c.map .drag)
      pure (.kept index)
  | .beginScroll p => do
      let c ← dispatch (Dispatcher.beginScroll p)
      let index ← keep (c.map .scroll)
      pure (.kept index)
  | .handle index h => do
      let k ← get
      match k.held? index with
      | none => pure .done
      | some c => do
          handle index c h
          pure .done
  | .dropDispatcher => do
      dispatch Dispatcher.drop
      pure .done

/-- Drop the dispatcher, and then what is still held, by index. -/
def drop : Act K (Keeper K) Unit := do
  dispatch Dispatcher.drop
  let k ← get
  modify fun k => { k with held := [] }
  dispatch (Action.each Held.drop (k.held.filterMap id))

end Keeper

end WindowRelay

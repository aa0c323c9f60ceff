/-!
# Action — one step of a stateful part, with the effects it causes

An `Action ε σ α` runs on a state of type `σ`, and yields a value, the next state and the list of
effects it caused, oldest first.  Nothing is ever recorded in the state only to be read back as a
log: what a step did to the outside is in its outcome.

* `Outcome`, `Action` — the two types, with the monad that appends effects in order;
* `Action.emit` — cause one effect;
* `Action.within` — run an action on a part of a larger state;
* `Action.replay` — run a whole list of calls.

The run lemmas say what each of these does to value, state and effects; with them a proof about an
operation never unfolds the monad.
-/

namespace WindowRelay

structure Outcome (ε σ α : Type) where
  value : α
  state : σ
  effects : List ε
  deriving DecidableEq, Repr

def Action (ε σ α : Type) : Type :=
  σ → Outcome ε σ α

namespace Action

variable {ε σ τ κ α β : Type}

def run (m : Action ε σ α) (s : σ) : Outcome ε σ α :=
  m s

instance : Monad (Action ε σ) where
  pure a := fun s => ⟨a, s, []⟩
  bind m f := fun s =>
    let first := m.run s
    let second := (f first.value).run first.state
    ⟨second.value, second.state, first.effects ++ second.effects⟩

instance : MonadStateOf σ (Action ε σ) where
  get := fun s => ⟨s, s, []⟩
  set s := fun _ => ⟨(), s, []⟩
  modifyGet f := fun s => ⟨(f s).1, (f s).2, []⟩

def emit (e : ε) : Action ε σ Unit :=
  fun s => ⟨(), s, [e]⟩

/-- Run `m` on the part of the state that `get` selects and `put` writes back. -/
def within (get : σ → τ) (put : σ → τ → σ) (m : Action ε τ α) : Action ε σ α :=
  fun s =>
    let inner := m.run (get s)
    ⟨inner.value, put s inner.state, inner.effects⟩

/-- Run `m` on the part of the state that `get?` selects, if there is one. -/
def withinSome (get? : σ → Option τ) (put : σ → τ → σ) (m : Action ε τ α) :
    Action ε σ (Option α) :=
  fun s =>
    match get? s with
    | none => ⟨none, s, []⟩
    | some part =>
        let inner := m.run part
        ⟨some inner.value, put s inner.state, inner.effects⟩

/-- Run `m` once for every element of a list, in order. -/
def each (m : κ → Action ε σ Unit) : List κ → Action ε σ Unit
  | [] => pure ()
  | c :: cs => do
      m c
      each m cs

/-- The values, the last state and all effects of a list of calls made one after the other. -/
def replay (step : κ → Action ε σ α) : List κ → Action ε σ (List α)
  | [] => pure []
  | c :: cs => do
      let a ← step c
      let as ← replay step cs
      pure (a :: as)

/-! ## What running means -/

@[simp]
theorem run_pure (a : α) (s : σ) : (pure a : Action ε σ α).run s = ⟨a, s, []⟩ :=
  rfl

@[simp]
theorem run_bind (m : Action ε σ α) (f : α → Action ε σ β) (s : σ) :
    (m >>= f).run s =
      ⟨((f (m.run s).value).run (m.run s).state).value,
        ((f (m.run s).value).run (m.run s).state).state,
        (m.run s).effects ++ ((f (m.run s).value).run (m.run s).state).effects⟩ :=
  rfl

@[simp]
theorem run_map (f : α → β) (m : Action ε σ α) (s : σ) :
    (f <$> m).run s = ⟨f (m.run s).value, (m.run s).state, (m.run s).effects⟩ :=
  congrArg (Outcome.mk (f (m.run s).value) (m.run s).state) (List.append_nil _)

@[simp]
theorem run_get (s : σ) : (get : Action ε σ σ).run s = ⟨s, s, []⟩ :=
  rfl

@[simp]
theorem run_modify (f : σ → σ) (s : σ) : (modify f : Action ε σ Unit).run s = ⟨(), f s, []⟩ :=
  rfl

@[simp]
theorem run_set (t s : σ) : (set t : Action ε σ Unit).run s = ⟨(), t, []⟩ :=
  rfl

@[simp]
theorem run_emit (e : ε) (s : σ) : (emit e : Action ε σ Unit).run s = ⟨(), s, [e]⟩ :=
  rfl

@[simp]
theorem run_within (get : σ → τ) (put : σ → τ → σ) (m : Action ε τ α) (s : σ) :
    (within get put m).run s =
      ⟨(m.run (get s)).value, put s (m.run (get s)).state, (m.run (get s)).effects⟩ :=
  rfl

theorem run_withinSome_none {get? : σ → Option τ} {put : σ → τ → σ} {m : Action ε τ α} {s : σ}
    (h : get? s = none) : (withinSome get? put m).run s = ⟨none, s, []⟩ := by
  simp [withinSome, run, h]

theorem run_withinSome_some {get? : σ → Option τ} {put : σ → τ → σ} {m : Action ε τ α} {s : σ}
    {part : τ} (h : get? s = some part) :
    (withinSome get? put m).run s =
      ⟨some (m.run part).value, put s (m.run part).state, (m.run part).effects⟩ := by
  simp [withinSome, run, h]

@[simp]
theorem run_ite (c : Prop) [Decidable c] (m n : Action ε σ α) (s : σ) :
    (if c then m else n).run s = if c then m.run s else n.run s := by
  split <;> rfl

/-- Running each call of a list when no call touches the state. -/
theorem run_each {m : κ → Action ε σ Unit} {f : κ → List ε}
    (hm : ∀ c s, (m c).run s = ⟨(), s, f c⟩) (cs : List κ) (s : σ) :
    (each m cs).run s = ⟨(), s, cs.flatMap f⟩ := by
  induction cs with
  | nil => rfl
  | cons c cs ih => simp [each, hm, ih]

instance : LawfulMonad (Action ε σ) :=
  LawfulMonad.mk' (Action ε σ)
    (fun m => by
      funext s
      exact congrArg (Outcome.mk (m.run s).value (m.run s).state) (List.append_nil _))
    (fun _ _ => rfl)
    (fun m f g => by
      funext s
      exact congrArg (Outcome.mk _ _) (List.append_assoc _ _ _))

/-! ## Whole runs -/

@[simp]
theorem run_replay_nil (step : κ → Action ε σ α) (s : σ) :
    (replay step []).run s = ⟨[], s, []⟩ :=
  rfl

theorem run_replay_cons (step : κ → Action ε σ α) (c : κ) (cs : List κ) (s : σ) :
    (replay step (c :: cs)).run s =
      ⟨((step c).run s).value :: ((replay step cs).run ((step c).run s).state).value,
        ((replay step cs).run ((step c).run s).state).state,
        ((step c).run s).effects ++ ((replay step cs).run ((step c).run s).state).effects⟩ := by
  simp [replay]

theorem replay_append_state (step : κ → Action ε σ α) (cs ds : List κ) (s : σ) :
    ((replay step (cs ++ ds)).run s).state =
      ((replay step ds).run ((replay step cs).run s).state).state := by
  induction cs generalizing s with
  | nil => rfl
  | cons c cs ih => simp [replay, ih]

theorem replay_append_effects (step : κ → Action ε σ α) (cs ds : List κ) (s : σ) :
    ((replay step (cs ++ ds)).run s).effects =
      ((replay step cs).run s).effects ++
        ((replay step ds).run ((replay step cs).run s).state).effects := by
  induction cs generalizing s with
  | nil => rfl
  | cons c cs ih => simp [replay, ih]

end Action

end WindowRelay

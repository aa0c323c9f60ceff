import Mathlib.Order.Monotone.Defs
import WindowRelay.Gesture.Arbiter

/-!
# Renumbering — sessions under other numbers

The number of a session counts the sessions of both kinds that were opened before it, so it changes
when those of the other kind are left out.  Two runs of which one leaves something out can be
compared up to a renumbering of the sessions, and of the tokens with them.

- `Callback.lane?`, `laneCalls`: the callbacks that one kind of gesture competes for, and those of
  its sessions.
- `Callback.renumber` and its companions: a renumbering, applied to all that bears a number.
-/

namespace WindowRelay

/-! ## Lanes -/

/-- Pointer callbacks go with drags, and scroll callbacks with scroll gestures. -/
def Callback.lane? {K : Type} : Callback K → Option SessionKind
  | .mouseMotion _ | .mouseLeave | .mouseButton _ _ _ | .beginDrag _ _ _ | .drag _ _ => some .drag
  | .scrollDiscrete _ _ | .scrollContinuous _ _ _ | .scrollStop _ => some .scroll
  | .beginScroll _ _ | .scroll _ _ => some .scroll
  | _ => none

def Effect.lane? {K : Type} : Effect K → Option SessionKind
  | .callback c => c.lane?
  | _ => none

section LaneCalls

variable {K : Type} {kind : SessionKind} {es fs : List (Effect K)}

/-- The callbacks of a lane, in order. -/
def laneCalls (kind : SessionKind) (es : List (Effect K)) : List (Callback K) :=
  (Effect.callbacks es).filter fun c => decide (c.lane? = some kind)

@[simp]
theorem laneCalls_append (kind : SessionKind) (es fs : List (Effect K)) :
    laneCalls kind (es ++ fs) = laneCalls kind es ++ laneCalls kind fs := by
  simp [laneCalls]

theorem laneCalls_eq_nil (h : ∀ e ∈ es, e.lane? ≠ some kind) : laneCalls kind es = [] := by
  refine List.filter_eq_nil_iff.2 fun c hc => ?_
  have hne := h _ (Effect.mem_callbacks.1 hc)
  simpa [Effect.lane?] using hne

end LaneCalls

/-! ## Renumbering -/

/-- The gesture of the session `n` has the token `n + 1`. -/
def GestureToken.renumber (f : Nat → Nat) (t : GestureToken) : GestureToken :=
  ⟨f (t.number - 1) + 1⟩

def GestureState.renumber (f : Nat → Nat) : GestureState → GestureState
  | .idle => .idle
  | .active t => .active (t.renumber f)
  | .released t => .released (t.renumber f)
  | .cancelled t => .cancelled (t.renumber f)

@[simp]
theorem GestureState.renumber_ended (f : Nat → Nat) (how : Ending) (t : GestureToken) :
    (GestureState.ended how t).renumber f = .ended how (t.renumber f) := by
  cases how <;> rfl

def Capability.renumber {kind : SessionKind} (f : Nat → Nat) (c : Capability kind) :
    Capability kind :=
  { c with session := f c.session }

def DragSession.renumber (f : Nat → Nat) (s : DragSession) : DragSession :=
  { s with token := s.token.renumber f, capability := s.capability.renumber f }

def ScrollSession.renumber (f : Nat → Nat) (s : ScrollSession) : ScrollSession :=
  { s with token := s.token.renumber f, capability := s.capability.renumber f }

/-- A slot under a renumbering, given what becomes of its session. -/
def Slot.renumber {σ : Type} (f : Nat → Nat) (session : σ → σ) (slot : Slot σ) : Slot σ :=
  ⟨slot.session.map session, slot.state.renumber f⟩

def Callback.renumber {K : Type} (f : Nat → Nat) : Callback K → Callback K
  | .beginDrag n p b => .beginDrag (f n) p b
  | .beginScroll n p => .beginScroll (f n) p
  | .drag n call => .drag (f n) call
  | .scroll n call => .scroll (f n) call
  | c => c

namespace Arbiter

variable {K : Type}

/-- The slot of a kind. -/
def lane (kind : SessionKind) (a : Arbiter K) : Slot DragSession ⊕ Slot ScrollSession :=
  match kind with
  | .drag => .inl a.drag
  | .scroll => .inr a.scroll

/-- The slot of a kind, under a renumbering. -/
def renumbered (f : Nat → Nat) (kind : SessionKind) (a : Arbiter K) :
    Slot DragSession ⊕ Slot ScrollSession :=
  match kind with
  | .drag => .inl (a.drag.renumber f (DragSession.renumber f))
  | .scroll => .inr (a.scroll.renumber f (ScrollSession.renumber f))

end Arbiter

/-! ### Renumberings of the first sessions -/

/-- Two renumberings agree on the first `n` sessions. -/
def Agree (n : Nat) (f g : Nat → Nat) : Prop :=
  ∀ k < n, g k = f k

namespace Agree

variable {m n : Nat} {f g h : Nat → Nat}

theorem refl (n : Nat) (f : Nat → Nat) : Agree n f f :=
  fun _ _ => rfl

theorem trans (hle : m ≤ n) (hfg : Agree m f g) (hgh : Agree n g h) : Agree m f h := by
  intro k hk
  rw [hgh k (Nat.lt_of_lt_of_le hk hle), hfg k hk]

end Agree

end WindowRelay

import Mathlib.Order.Monotone.Basic
import WindowRelay.Proofs.Dispatcher.Telling
import WindowRelay.Proofs.Gesture.Playing
import WindowRelay.Proofs.Gesture.Renumbering

/-!
# Mirroring — one kind of gesture beside the other

Two arbiters are *linked* in one kind of gesture when they differ in the other kind only, up to the
numbers of their sessions.  An operation on the first is *mirrored* by one on the second if it keeps
them linked, with the same callbacks of that kind.

- `Act.Mirrors`: two operations that do the same to linked states.
- `Arbiter.Aside`, `Arbiter.Apart`: operations that leave a kind alone, without or with the opening
  of sessions of the other kind.
-/

namespace WindowRelay

/-! ## Mirrored operations -/

/-- How two states correspond under a renumbering of the sessions of the second, and how many
sessions a state has had. -/
structure Link (σ : Type) where
  rel : (Nat → Nat) → σ → σ → Prop
  opened : σ → Nat

namespace Act

variable {K σ α β γ δ ε ζ : Type} {kind : SessionKind} {link : Link σ}

/-- What a pair of operations does to two states: they correspond under a renumbering that goes on
from the one before, and so do the answers and the callbacks of the kind, for any renumbering that
goes on from there. -/
def MirrorsAt (link : Link σ) (kind : SessionKind) (R : (Nat → Nat) → α → β → Prop)
    (m : Act K σ α) (m' : Act K σ β) (f : Nat → Nat) (s s' : σ) : Prop :=
  ∃ g, Agree (link.opened s') f g ∧ link.opened s' ≤ link.opened (m'.run s').state ∧
    link.rel g (m.run s).state (m'.run s').state ∧
    ∀ h, Agree (link.opened (m'.run s').state) g h →
      R h (m.run s).value (m'.run s').value ∧
        laneCalls kind (m.run s).effects =
          (laneCalls kind (m'.run s').effects).map (Callback.renumber h)

def Mirrors (link : Link σ) (kind : SessionKind) (R : (Nat → Nat) → α → β → Prop)
    (m : Act K σ α) (m' : Act K σ β) : Prop :=
  ∀ f s s', link.rel f s s' → MirrorsAt link kind R m m' f s s'

/-- Nothing is said of the answers. -/
abbrev Anyway (α β : Type) : (Nat → Nat) → α → β → Prop :=
  fun _ _ _ => True

/-- The answers are the same. -/
abbrev Same (α : Type) : (Nat → Nat) → α → α → Prop :=
  fun _ x y => x = y

namespace Mirrors

variable {R : (Nat → Nat) → α → β → Prop} {S : (Nat → Nat) → γ → δ → Prop}

theorem pure {x : α} {y : β} (h : ∀ f, R f x y) :
    Mirrors link kind R (pure x : Act K σ α) (pure y) := by
  intro f s s' hs
  exact ⟨f, .refl _ f, Nat.le_refl _, hs, fun g _ => ⟨h g, rfl⟩⟩

theorem done (x : α) (y : β) :
    Mirrors link kind (Anyway α β) (Pure.pure x : Act K σ α) (Pure.pure y) :=
  pure fun _ => trivial

theorem bind {m : Act K σ α} {m' : Act K σ β} {k : α → Act K σ γ} {k' : β → Act K σ δ}
    (hm : Mirrors link kind R m m')
    (hk : ∀ x y, (∃ f, R f x y) → Mirrors link kind S (k x) (k' y)) :
    Mirrors link kind S (m >>= k) (m' >>= k') := by
  intro f s s' hs
  -- `g` renumbers what the first operation opens, and `h` goes on from it for the second; the calls of
  -- both are read by whatever goes on from `h`.
  rcases hm f s s' hs with ⟨g, hfg, hle, hrel, hanswer⟩
  have hvalue := (hanswer g (.refl _ g)).1
  rcases hk _ _ ⟨g, hvalue⟩ g _ _ hrel with ⟨h, hgh, hle', hrel', hanswer'⟩
  refine ⟨h, hfg.trans hle hgh, Nat.le_trans hle hle', hrel', fun i hi => ?_⟩
  rcases hanswer' i hi with ⟨hS, hcalls'⟩
  have hcalls := (hanswer i (hgh.trans hle' hi)).2
  refine ⟨hS, ?_⟩
  simp only [Action.run_bind, laneCalls_append, List.map_append, hcalls, hcalls']

/-- The answers are wrapped up alike. -/
theorem map {m : Act K σ α} {m' : Act K σ β} {φ : α → γ} {ψ : β → δ}
    (hm : Mirrors link kind R m m') (hRS : ∀ f x y, R f x y → S f (φ x) (ψ y)) :
    Mirrors link kind S (m >>= fun x => Pure.pure (φ x)) (m' >>= fun y => Pure.pure (ψ y)) := by
  intro f s s' hs
  rcases hm f s s' hs with ⟨g, hfg, hle, hrel, hanswer⟩
  refine ⟨g, hfg, hle, hrel, fun h hgh => ?_⟩
  rcases hanswer h hgh with ⟨hR, hcalls⟩
  refine ⟨hRS h _ _ hR, ?_⟩
  simpa using hcalls

theorem get_bind {k : σ → Act K σ α} {k' : σ → Act K σ β}
    (hk : ∀ f s s', link.rel f s s' → MirrorsAt link kind R (k s) (k' s') f s s') :
    Mirrors link kind R (get >>= k) (get >>= k') := by
  intro f s s' hs
  have h := hk f s s' hs
  unfold MirrorsAt at h ⊢
  simpa using h

/-- Two operations one after the other, with both answers. -/
theorem both {T : (Nat → Nat) → ε → ζ → Prop} {m : Act K σ α} {m' : Act K σ β} {k : Act K σ γ}
    {k' : Act K σ δ} {p : α → γ → ε} {q : β → δ → ζ} (hm : Mirrors link kind R m m')
    (hk : Mirrors link kind S k k')
    (hRST : ∀ f x y z w, R f x y → S f z w → T f (p x z) (q y w)) :
    Mirrors link kind T
      (do
        let x ← m
        let z ← k
        Pure.pure (p x z))
      (do
        let y ← m'
        let w ← k'
        Pure.pure (q y w)) := by
  intro f s s' hs
  rcases hm f s s' hs with ⟨g, hfg, hle, hrel, hanswer⟩
  rcases hk g _ _ hrel with ⟨h, hgh, hle', hrel', hanswer'⟩
  refine ⟨h, hfg.trans hle hgh, Nat.le_trans hle hle', hrel', fun i hi => ?_⟩
  rcases hanswer i (hgh.trans hle' hi) with ⟨hR, hcalls⟩
  rcases hanswer' i hi with ⟨hS, hcalls'⟩
  refine ⟨hRST i _ _ _ _ hR hS, ?_⟩
  simp only [Action.run_bind, Action.run_pure, List.append_nil, laneCalls_append, List.map_append,
    hcalls, hcalls']

/-- The answer is replaced, and nothing more is said of it. -/
theorem forget {m : Act K σ α} {n : Act K σ δ} {p : α → γ}
    {Q : (Nat → Nat) → α → δ → Prop} (h : Mirrors link kind Q m n) :
    Mirrors link kind (Anyway γ δ) (m >>= fun x => Pure.pure (p x)) n := by
  intro f s s' hs
  rcases h f s s' hs with ⟨g, hfg, hle, hrel, hanswer⟩
  refine ⟨g, hfg, hle, hrel, fun i hi => ⟨trivial, ?_⟩⟩
  simpa using (hanswer i hi).2

/-- What is left out on the other side, because nothing corresponds to it. -/
theorem skip {m : Act K σ α} {y : β} {k : α → Act K σ γ} {n : Act K σ δ}
    (hm : Mirrors link kind R m (Pure.pure y)) (hk : ∀ x, Mirrors link kind S (k x) n) :
    Mirrors link kind S (m >>= k) n := by
  have h : Mirrors link kind S (m >>= k) (Pure.pure y >>= fun _ => n) :=
    hm.bind fun x _ _ => hk x
  exact h

theorem get_skip {k : σ → Act K σ α} {n : Act K σ β} (hk : ∀ s, Mirrors link kind R (k s) n) :
    Mirrors link kind R (get >>= k) n := by
  intro f s s' hs
  have h := hk s f s s' hs
  unfold MirrorsAt at h ⊢
  simpa using h

end Mirrors

end Act

/-! ## Linked arbiters -/

namespace Arbiter

open Act

variable {K α β : Type} {kind : SessionKind} {a a₁ b b₁ : Arbiter K} {f g : Nat → Nat}

/-- The line to the listener, and the two counters as they are after `j` more sessions. -/
def frameAfter (a : Arbiter K) (j : Nat) : Bool × WindowId × Nat × Nat :=
  (a.dispatcher.attached, a.dispatcher.window, a.dispatcher.ledger.opened + j, a.lastToken + j)

abbrev frame (a : Arbiter K) : Bool × WindowId × Nat × Nat :=
  a.frameAfter 0

/-- The arbiters differ in the other kind of gesture only.  The second has missed some sessions, and
numbers its own by a smaller count. -/
structure Linked (kind : SessionKind) (f : Nat → Nat) (a b : Arbiter K) : Prop where
  mono : StrictMono f
  ahead : ∀ k, f (b.dispatcher.ledger.opened + k) = a.dispatcher.ledger.opened + k
  attached : a.dispatcher.attached = b.dispatcher.attached
  window : a.dispatcher.window = b.dispatcher.window
  counted : a.lastToken = a.dispatcher.ledger.opened
  counted' : b.lastToken = b.dispatcher.ledger.opened
  lane : ∀ g, Agree b.dispatcher.ledger.opened f g → a.lane kind = b.renumbered g kind

def link (kind : SessionKind) : Link (Arbiter K) where
  rel := Linked kind
  opened a := a.dispatcher.ledger.opened

namespace Linked

/-- The next session of the one is the next of the other. -/
theorem next (h : Linked kind f a b) :
    f b.dispatcher.ledger.opened = a.dispatcher.ledger.opened :=
  h.ahead 0

theorem initial (d : Dispatcher K) (h : d.ledger.opened = 0) :
    Linked kind id (ofDispatcher d) (ofDispatcher d) where
  mono := strictMono_id
  ahead _ := rfl
  attached := rfl
  window := rfl
  counted := h.symm
  counted' := h.symm
  lane g _ := by cases kind <;> rfl

/-- The slots of the kind change alike, and as many sessions are opened on both sides. -/
theorem relane {j : Nat} (h : Linked kind f a b) (ha : a₁.frame = a.frameAfter j)
    (hb : b₁.frame = b.frameAfter j)
    (lane : ∀ g, Agree (b.dispatcher.ledger.opened + j) f g →
      a₁.lane kind = b₁.renumbered g kind) :
    Linked kind f a₁ b₁ := by
  simp only [frame, frameAfter, Nat.add_zero, Prod.mk.injEq] at ha hb
  -- Both counters move by `j`, so the second stays as far behind as it was.
  rcases ha with ⟨haline, hawindow, haopened, hatoken⟩
  rcases hb with ⟨hbline, hbwindow, hbopened, hbtoken⟩
  refine ⟨h.mono, fun k => ?_, ?_, ?_, ?_, ?_, ?_⟩
  · rw [haopened, hbopened, Nat.add_assoc, Nat.add_assoc]
    exact h.ahead (j + k)
  · rw [haline, hbline]
    exact h.attached
  · rw [hawindow, hbwindow]
    exact h.window
  · rw [haopened, hatoken, h.counted]
  · rw [hbopened, hbtoken, h.counted']
  · rw [hbopened]
    exact lane

/-- Two operations whose runs are known. -/
theorem mirrorsAt {j : Nat} {R : (Nat → Nat) → α → β → Prop} {m : Act K (Arbiter K) α}
    {m' : Act K (Arbiter K) β} {x : α} {y : β} {es fs : List (Effect K)} (h : Linked kind f a b)
    (hm : m.run a = ⟨x, a₁, es⟩) (hm' : m'.run b = ⟨y, b₁, fs⟩)
    (ha : a₁.frame = a.frameAfter j) (hb : b₁.frame = b.frameAfter j)
    (hall : ∀ g, Agree (b.dispatcher.ledger.opened + j) f g →
      a₁.lane kind = b₁.renumbered g kind ∧ R g x y ∧
        laneCalls kind es = (laneCalls kind fs).map (Callback.renumber g)) :
    MirrorsAt (link kind) kind R m m' f a b := by
  have hopened : b₁.dispatcher.ledger.opened = b.dispatcher.ledger.opened + j :=
    congrArg (fun x => x.2.2.1) hb
  unfold MirrorsAt
  rw [hm, hm']
  refine ⟨f, .refl _ f, ?_, h.relane ha hb fun g hg => (hall g hg).1, fun g hg => ?_⟩
  · simp only [link, hopened]
    omega
  · simp only [link, hopened] at hg
    exact (hall g hg).2

end Linked

/-! ### Operations that leave a kind alone -/

/-- The operation does not touch the kind, and opens no session. -/
def Aside (kind : SessionKind) (m : Act K (Arbiter K) α) : Prop :=
  ∀ a, (m.run a).state.frame = a.frame ∧ (m.run a).state.lane kind = a.lane kind ∧
    laneCalls kind (m.run a).effects = []

/-- The operation does not touch the kind, and may open sessions of the other. -/
def Apart (kind : SessionKind) (m : Act K (Arbiter K) α) : Prop :=
  ∀ a, (∃ j, (m.run a).state.frame = a.frameAfter j) ∧ (m.run a).state.lane kind = a.lane kind ∧
    laneCalls kind (m.run a).effects = []

theorem renumbered_congr (h : a.lane kind = b.lane kind) (f : Nat → Nat) :
    a.renumbered f kind = b.renumbered f kind := by
  cases kind with
  | drag =>
      have hdrag : a.drag = b.drag := Sum.inl.inj h
      simp [renumbered, hdrag]
  | scroll =>
      have hscroll : a.scroll = b.scroll := Sum.inr.inj h
      simp [renumbered, hscroll]

namespace Aside

theorem bind {m : Act K (Arbiter K) α} {k : α → Act K (Arbiter K) β} (hm : Aside kind m)
    (hk : ∀ x, Aside kind (k x)) : Aside kind (m >>= k) := by
  intro a
  rcases hm a with ⟨hframe, hlane, hcalls⟩
  rcases hk (m.run a).value (m.run a).state with ⟨hframe', hlane', hcalls'⟩
  refine ⟨hframe'.trans hframe, hlane'.trans hlane, ?_⟩
  rw [Action.run_bind, laneCalls_append, hcalls, hcalls', List.append_nil]

theorem apart {m : Act K (Arbiter K) α} (h : Aside kind m) : Apart kind m := by
  intro a
  exact ⟨⟨0, (h a).1⟩, (h a).2⟩

/-- Two operations that leave the kind alone mirror each other, whatever else they do. -/
theorem mirrors {m : Act K (Arbiter K) α} {m' : Act K (Arbiter K) β} (h : Aside kind m)
    (h' : Aside kind m') : Mirrors (link kind) kind (Anyway α β) m m' := by
  intro f a b hab
  rcases h a with ⟨hframe, hlane, hcalls⟩
  rcases h' b with ⟨hframe', hlane', hcalls'⟩
  have hrun : m.run a = ⟨(m.run a).value, (m.run a).state, (m.run a).effects⟩ := rfl
  have hrun' : m'.run b = ⟨(m'.run b).value, (m'.run b).state, (m'.run b).effects⟩ := rfl
  refine hab.mirrorsAt hrun hrun' hframe hframe' fun g hg => ⟨?_, trivial, ?_⟩
  · rw [hlane, renumbered_congr hlane' g]
    exact hab.lane g hg
  · rw [hcalls, hcalls']
    rfl

end Aside

/-- An operation that leaves the kind alone is mirrored by nothing at all. -/
theorem Apart.mirrors {m : Act K (Arbiter K) α} (h : Apart kind m) (y : β) :
    Mirrors (link kind) kind (Anyway α β) m (Pure.pure y) := by
  intro f a b hab
  rcases h a with ⟨⟨j, hframe⟩, hlane, hcalls⟩
  simp only [frame, frameAfter, Nat.add_zero, Prod.mk.injEq] at hframe
  rcases hframe with ⟨hline, hwindow, hopened, htoken⟩
  -- The sessions to come are further ahead by those that were opened.
  let n := b.dispatcher.ledger.opened
  let g : Nat → Nat := fun k => if k < n then f k else f k + j
  have hagree : Agree n f g := fun k hk => if_pos hk
  refine ⟨g, hagree, Nat.le_refl _, ⟨?_, ?_, ?_, ?_, ?_, hab.counted', ?_⟩, fun _ _ =>
    ⟨trivial, hcalls⟩⟩
  · intro k l hkl
    have hlt := hab.mono hkl
    simp only [g]
    split <;> split <;> omega
  · intro k
    have hbeyond : ¬ n + k < n := by omega
    have hahead := hab.ahead k
    simp only [g, Action.run_pure, n] at hbeyond hahead ⊢
    rw [if_neg hbeyond, hahead, hopened]
    omega
  · exact hline.trans hab.attached
  · exact hwindow.trans hab.window
  · rw [htoken, hopened, hab.counted]
  · intro h hgh
    rw [hlane]
    exact hab.lane h (hagree.trans (Nat.le_refl _) hgh)

end Arbiter
end WindowRelay

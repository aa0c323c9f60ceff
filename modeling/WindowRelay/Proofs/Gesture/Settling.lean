import WindowRelay.Proofs.Gesture.Naming
import WindowRelay.Proofs.Gesture.Scrolls

/-!
# Settling — how a scroll gesture is brought to its end

Whatever an operation does besides, it settles the open scroll gesture if the end of that gesture
is the first thing it does.

- `Act.Settles`: an operation ends the scroll gesture, and goes on with a course of the arbiter.
- `Arbiter.Known.settled`: the session hears the calls that end it and nothing more, and its gesture
  is not the open one again.
-/

namespace WindowRelay

/-- The last that a scroll session hears. -/
def ScrollBeat.last : Ending → List ScrollBeat
  | .release => [.finish, .release]
  | .cancel => [.cancel]

theorem scrollBeats_eq_nil {K : Type} {n : Nat} {log : List (Callback K)}
    (h : ∀ c ∈ log, c.target? ≠ some ⟨.scroll, n⟩) : scrollBeats n log = [] := by
  refine List.filterMap_eq_nil_iff.2 fun c hc => ?_
  cases c with
  | scroll m call =>
      have hm : m ≠ n := by
        rintro rfl
        exact h _ hc rfl
      simp [Callback.scrollBeat?, hm]
  | _ =>
      rfl

/-! ## What becomes of a settled session -/

namespace Arbiter

variable {K : Type} {a b : Arbiter K} {fs : List (Effect K)} {s : ScrollSession}

theorem scrollBeats_finishScroll (how : Ending) (hs : a.scroll.session = some s) :
    scrollBeats s.capability.session
        (Effect.callbacks ((finishScroll how).run a).effects) = ScrollBeat.last how := by
  cases how with
  | release =>
      rw [run_finishScroll_release hs]
      simp [Effect.callbacks, Effect.callback?, scrollBeats, callsOf, Callback.scrollBeat?,
        ScrollCall.beat, ScrollBeat.last]
  | cancel =>
      rw [run_finishScroll_cancel hs]
      simp [Effect.callbacks, Effect.callback?, scrollBeats, callsOf, Callback.scrollBeat?,
        ScrollCall.beat, ScrollBeat.last]

theorem vacant_finishScroll (how : Ending) (a : Arbiter K) :
    ((finishScroll how).run a).state.scroll.session = none := by
  cases hs : a.scroll.session with
  | none =>
      rw [run_finishScroll_none how hs]
      exact hs
  | some s =>
      cases how with
      | release =>
          rw [run_finishScroll_release hs]
          rfl
      | cancel =>
          rw [run_finishScroll_cancel hs]
          rfl

theorem opened_finishScroll (how : Ending) (a : Arbiter K) :
    ((finishScroll how).run a).state.dispatcher.ledger.opened = a.dispatcher.ledger.opened := by
  cases hs : a.scroll.session with
  | none =>
      rw [run_finishScroll_none how hs]
  | some s =>
      cases how with
      | release =>
          rw [run_finishScroll_release hs]
          rfl
      | cancel =>
          rw [run_finishScroll_cancel hs]
          rfl

/-- Once a scroll gesture is settled, its session hears nothing, and its token does not return. -/
theorem Known.settled {first : Nat} {log : List (Callback K)} (known : Known first log a)
    (hs : a.scroll.session = some s) {how : Ending}
    (h : Course ((finishScroll how).run a).state fs b) :
    scrollBeats s.capability.session (Effect.callbacks fs) = [] ∧
      b.owner .scroll ≠ .transient s.token := by
  let n := s.capability.session
  have hopen : a.book.current .scroll = some n := by
    simp [current_eq, named?, hs, n]
  have hbegun := (known.account.open_iff ⟨.scroll, n⟩).1 hopen
  rcases known.account.number_mem hbegun.1 with ⟨hfirst, hlt⟩
  -- After the settling the session is an old one, which no book has again.
  have hclosed : ((finishScroll how).run a).state.book.current .scroll ≠ some n := by
    simp [current_eq, named?, vacant_finishScroll]
  have hold : n < ((finishScroll how).run a).state.book.opened := by
    have hopened : a.book.opened = a.dispatcher.ledger.opened := rfl
    have hsame := opened_finishScroll how a
    exact Nat.lt_of_lt_of_eq hlt (hopened.trans hsame.symm)
  have hfollows := h.follows
  refine ⟨scrollBeats_eq_nil (hfollows.silent (s := ⟨.scroll, n⟩) hclosed hold), fun howner => ?_⟩
  have hend := (known.course (plays_finishScroll how a).course).course h
  rcases hend.owner_iff.1 howner with ⟨s', hkind, htoken, hcurrent⟩
  have hstays := (hfollows.stays_closed (s := ⟨.scroll, n⟩) hclosed hold).1
  have hs' := (hend.account.open_iff s').1 (by rw [hkind, hcurrent])
  have hfirst' := (hend.account.number_mem hs'.1).1
  -- Tokens are counted like numbers, so the same token is the same number.
  have hnumber : s'.number = n := by
    have htokens := congrArg GestureToken.number (htoken.trans (known.aligned.scroll s hs))
    simp only [tokenFrom] at htokens
    omega
  rw [hnumber] at hcurrent
  exact hstays hcurrent

end Arbiter

/-! ## Operations that settle -/

namespace Act

open Arbiter (finishScroll Course)

variable {K σ α β : Type} {view : σ → Arbiter K} {how : Ending} {s : σ}

/-- The operation ends the scroll gesture first, and what follows is a course. -/
def Settles (how : Ending) (view : σ → Arbiter K) (m : Act K σ α) (s : σ) : Prop :=
  ∃ fs, (m.run s).effects = ((finishScroll how).run (view s)).effects ++ fs ∧
    Course ((finishScroll how).run (view s)).state fs (view (m.run s).state)

namespace Settles

theorem bind {m : Act K σ α} {f : α → Act K σ β} {P : Effect K → Prop}
    (h : Settles how view m s) (hf : ∀ x, Plays P view (f x)) : Settles how view (m >>= f) s := by
  rcases h with ⟨fs, heffects, hcourse⟩
  have hrest := (hf (m.run s).value (m.run s).state).course
  refine ⟨fs ++ ((f (m.run s).value).run (m.run s).state).effects, ?_, hcourse.trans hrest⟩
  rw [Action.run_bind, heffects, List.append_assoc]

/-- What is done before may read the state, if it does nothing else. -/
theorem after {m : Act K σ α} {f : α → Act K σ β} {x : α} (hm : m.run s = ⟨x, s, []⟩)
    (h : Settles how view (f x) s) : Settles how view (m >>= f) s := by
  have hrun : (m >>= f).run s = (f x).run s := by
    rw [Action.run_bind, hm]
    rfl
  unfold Settles
  rw [hrun]
  exact h

end Settles

end Act
end WindowRelay

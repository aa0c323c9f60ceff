import WindowRelay.Gesture.Slot
import WindowRelay.Proofs.Gesture.Book

/-!
# Latest — what a log tells of the latest session of a kind

The lifecycle state of a gesture kind is about its latest gesture.  It is active while the session of
that gesture is open, and then it says how the session ended.

- `latest?`: the session of a kind that began last.
- `Callback.turns`: the state of a kind after a callback.
- `Told token kind log b x`: the state `x` is what the log tells of the kind, where sessions go by
  the tokens that `token` gives them.
- `Told.read`: a callback in order keeps this up, if the state turns with it.
-/

namespace WindowRelay

variable {K : Type}

/-! ## Ends of sessions -/

namespace Callback

/-- The terminal callback of a session. -/
def ending (s : SessionId) (how : Ending) : Callback K :=
  match s.kind with
  | .drag => .drag s.number (.ended how)
  | .scroll => .scroll s.number (.ended how)

/-- How a callback ends its session. -/
def ending? : Callback K → Option (SessionId × Ending)
  | .drag n (.ended how) => some (⟨.drag, n⟩, how)
  | .scroll n (.ended how) => some (⟨.scroll, n⟩, how)
  | _ => none

theorem ending?_ending (s : SessionId) (how : Ending) :
    (ending s how : Callback K).ending? = some (s, how) := by
  rcases s with ⟨kind, n⟩
  cases kind <;> rfl

theorem ends?_eq (c : Callback K) : c.ends? = c.ending?.map Prod.fst := by
  cases c with
  | drag n call => cases call <;> rfl
  | scroll n call => cases call <;> rfl
  | _ => rfl

theorem ends?_ending (s : SessionId) (how : Ending) : (ending s how : Callback K).ends? = some s := by
  simp [ends?_eq, ending?_ending]

theorem eq_ending_of_ends? {c : Callback K} {s : SessionId} (h : c.ends? = some s) :
    ∃ how, c = ending s how := by
  cases c with
  | drag n call =>
      cases call with
      | ended how =>
          cases h
          exact ⟨how, rfl⟩
      | _ =>
          cases h
  | scroll n call =>
      cases call with
      | ended how =>
          cases h
          exact ⟨how, rfl⟩
      | _ =>
          cases h
  | _ =>
      cases h

/-- The state of a kind after a callback: the opening of a session makes it active, and the end of
one is kept. -/
def turns (token : SessionId → GestureToken) (kind : SessionKind) (x : GestureState)
    (c : Callback K) : GestureState :=
  match c.opens?, c.ending? with
  | some s, _ => if s.kind = kind then .active (token s) else x
  | none, some (s, how) => if s.kind = kind then .ended how (token s) else x
  | none, none => x

end Callback

/-! ## The latest session -/

section Latest

variable {kind : SessionKind} {log log' : List (Callback K)} {s : SessionId}

def latest? (kind : SessionKind) (log : List (Callback K)) : Option SessionId :=
  ((begun log).filter fun s => decide (s.kind = kind)).getLast?

theorem mem_of_latest? (h : latest? kind log = some s) : s ∈ begun log ∧ s.kind = kind := by
  simpa using List.mem_of_getLast? h

theorem latest?_of_begun {before : List SessionId} (h : begun log = before ++ [s])
    (hkind : s.kind = kind) : latest? kind log = some s := by
  simp [latest?, h, hkind]

theorem latest?_of_other (h : ∀ t ∈ begun log', t.kind ≠ kind) :
    latest? kind (log ++ log') = latest? kind log := by
  have hnone : (begun log').filter (fun s => decide (s.kind = kind)) = [] := by
    simpa using h
  simp [latest?, begun_append, hnone]

end Latest

/-! ## States that a log tells of -/

/-- The state of a kind when the callbacks of the log have been made and the sessions of the book are
open. -/
inductive Told (token : SessionId → GestureToken) (kind : SessionKind) (log : List (Callback K))
    (b : Book) : GestureState → Prop
  | idle (latest : latest? kind log = none) (vacant : b.current kind = none) :
      Told token kind log b .idle
  | active {s : SessionId} (latest : latest? kind log = some s)
      (isOpen : b.current kind = some s.number) : Told token kind log b (.active (token s))
  | finished {s : SessionId} {how : Ending} (latest : latest? kind log = some s)
      (vacant : b.current kind = none) (ends : .ending s how ∈ log)
      (once : ∀ how', .ending s how' ∈ log → how' = how) :
      Told token kind log b (.ended how (token s))

namespace Told

variable {token : SessionId → GestureToken} {kind : SessionKind} {log log' : List (Callback K)}
  {b b' : Book} {x : GestureState} {c : Callback K} {first : Nat}

/-- What neither opens nor ends a session of the kind tells nothing new of it. -/
theorem still (h : Told token kind log b x) (hcurrent : b'.current kind = b.current kind)
    (hopens : ∀ s, c.opens? = some s → s.kind ≠ kind)
    (hends : ∀ s, c.ends? = some s → s.kind ≠ kind) : Told token kind (log ++ [c]) b' x := by
  have hlatest : latest? kind (log ++ [c]) = latest? kind log := by
    refine latest?_of_other ?_
    intro t ht
    exact hopens t (by simpa [begun] using ht)
  have hsame : ∀ s how, s.kind = kind → .ending s how ∈ log ++ [c] → .ending s how ∈ log := by
    intro s how hkind hmem
    rcases List.mem_append.1 hmem with hmem | hmem
    · exact hmem
    · have hc : Callback.ending s how = c := by
        simpa using hmem
      have hends' : c.ends? = some s := by
        simpa [hc] using Callback.ends?_ending (K := K) s how
      exact absurd hkind (hends s hends')
  cases h with
  | idle latest vacant =>
      exact .idle (hlatest.trans latest) (hcurrent.trans vacant)
  | active latest isOpen =>
      exact .active (hlatest.trans latest) (hcurrent.trans isOpen)
  | finished latest vacant ends once =>
      refine .finished (hlatest.trans latest) (hcurrent.trans vacant) (List.mem_append_left _ ends) ?_
      intro how' hmem
      exact once how' (hsame _ how' (mem_of_latest? latest).2 hmem)

/-- The open session of a kind is its latest. -/
theorem latest_of_open {s : SessionId} (h : Told token kind log b x) (hkind : s.kind = kind)
    (isOpen : b.current kind = some s.number) : latest? kind log = some s ∧ x = .active (token s) := by
  cases h with
  | idle latest vacant =>
      simp [vacant] at isOpen
  | @active s' latest isOpen' =>
      -- One session of a kind is open at a time.
      have hnumber : s'.number = s.number := by
        simpa [isOpen'] using isOpen
      have hsame : s' = s := by
        rcases s with ⟨kind, n⟩
        rcases s' with ⟨kind', n'⟩
        have hkind' := (mem_of_latest? latest).2
        simp_all
      rw [← hsame]
      exact ⟨latest, rfl⟩
  | finished latest vacant ends once =>
      simp [vacant] at isOpen

/-- After a callback that is in order the state is what the longer log tells. -/
theorem read (h : Told token kind log b x) (account : Book.Account first log b)
    (hc : b.Reads c b') : Told token kind (log ++ [c]) b' (Callback.turns token kind x c) := by
  have hsilent (hopens : c.opens? = none) (hends : c.ends? = none) :
      Told token kind (log ++ [c]) b (Callback.turns token kind x c) := by
    have hturns : Callback.turns token kind x c = x := by
      have hending : c.ending? = none := by
        simpa [Callback.ends?_eq] using hends
      simp [Callback.turns, hopens, hending]
    rw [hturns]
    exact h.still rfl (by simp [hopens]) (by simp [hends])
  cases hc with
  | @opening s opens fresh vacant =>
      have hturns : Callback.turns token kind x c = if s.kind = kind then .active (token s) else x := by
        simp [Callback.turns, opens]
      have hends : c.ends? = none :=
        Callback.ends?_of_target? (Callback.target?_of_opens? opens)
      by_cases hkind : s.kind = kind
      · have hbegun : begun (log ++ [c]) = begun log ++ [s] := by
          simp [begun, opens]
        rw [hturns, if_pos hkind]
        refine .active (latest?_of_begun hbegun hkind) ?_
        simp [Book.enter, hkind]
      · rw [hturns, if_neg hkind]
        refine h.still ?_ ?_ ?_
        · exact Function.update_of_ne (Ne.symm hkind) _ _
        · intro t ht
          rw [opens] at ht
          cases ht
          exact hkind
        · intro t ht
          rw [hends] at ht
          cases ht
  | calling calls lasts isOpen =>
      exact hsilent (Callback.opens?_of_target? calls) (by simp [Callback.ends?, lasts])
  | @ending s ends isOpen =>
      rcases Callback.eq_ending_of_ends? ends with ⟨how, rfl⟩
      have hopens : (Callback.ending s how : Callback K).opens? = none :=
        Callback.opens?_of_target? (Callback.target?_of_ends? ends)
      have hturns : Callback.turns token kind x (.ending s how : Callback K) =
          if s.kind = kind then .ended how (token s) else x := by
        simp [Callback.turns, hopens, Callback.ending?_ending]
      by_cases hkind : s.kind = kind
      · -- The session that ends is the open one, so it is the latest, and it ended in no other way.
        have hlatest := (h.latest_of_open hkind (by rw [← hkind, isOpen])).1
        have hlasts : s ∉ ended log := ((account.open_iff s).1 isOpen).2
        rw [hturns, if_pos hkind]
        refine .finished ?_ ?_ ?_ ?_
        · exact (latest?_of_other (by simp [begun, hopens])).trans hlatest
        · simp [Book.leave, hkind]
        · simp
        · intro how' hmem
          rcases List.mem_append.1 hmem with hmem | hmem
          · exact absurd (mem_ended.2 ⟨_, hmem, Callback.ends?_ending s how'⟩) hlasts
          · have hends := congrArg Callback.ending? (List.mem_singleton.1 hmem)
            simpa [Callback.ending?_ending] using hends
      · rw [hturns, if_neg hkind]
        refine h.still ?_ ?_ ?_
        · exact Function.update_of_ne (Ne.symm hkind) _ _
        · intro t ht
          rw [hopens] at ht
          cases ht
        · intro t ht
          rw [ends] at ht
          cases ht
          exact hkind
  | other opens calls motion =>
      exact hsilent opens (Callback.ends?_of_target? calls)

theorem follow (h : Told token kind log b x) (account : Book.Account first log b)
    (hlog : b.Follows log' b') :
    Told token kind (log ++ log') b' (log'.foldl (Callback.turns token kind) x) := by
  induction hlog generalizing log x with
  | nil b =>
      simpa using h
  | cons first _ ih =>
      simpa using ih (h.read account first) (account.snoc first)

/-! ### What the state says -/

/-- The state is active with the token of the open session. -/
theorem active_iff (h : Told token kind log b x) {t : GestureToken} :
    x = .active t ↔ ∃ s : SessionId, s.kind = kind ∧ token s = t ∧
      b.current kind = some s.number := by
  constructor
  · intro hx
    cases h with
    | idle latest vacant =>
        cases hx
    | active latest isOpen =>
        cases hx
        exact ⟨_, (mem_of_latest? latest).2, rfl, isOpen⟩
    | finished latest vacant ends once =>
        exact absurd hx (GestureState.ended_ne_active _ _ _)
  · rintro ⟨s, hkind, rfl, isOpen⟩
    exact (h.latest_of_open hkind isOpen).2

/-- Once the latest session is over, the state has its token and says how it ended. -/
theorem ended_iff (h : Told token kind log b x) (account : Book.Account first log b)
    {how : Ending} {t : GestureToken} :
    x = .ended how t ↔ ∃ s, latest? kind log = some s ∧ token s = t ∧ .ending s how ∈ log := by
  constructor
  · intro hx
    cases h with
    | idle latest vacant =>
        cases how <;> cases hx
    | active latest isOpen =>
        exact absurd hx.symm (GestureState.ended_ne_active _ _ _)
    | finished latest vacant ends once =>
        rcases GestureState.ended_inj.1 hx with ⟨rfl, rfl⟩
        exact ⟨_, latest, rfl, ends⟩
  · rintro ⟨s, hlatest, rfl, hends⟩
    cases h with
    | idle latest vacant =>
        simp [latest] at hlatest
    | active latest isOpen =>
        -- A session that is open has not ended.
        rw [latest] at hlatest
        cases hlatest
        have hkind := (mem_of_latest? latest).2
        have hlasts := ((account.open_iff s).1 (by rw [hkind, isOpen])).2
        exact absurd (mem_ended.2 ⟨_, hends, Callback.ends?_ending s how⟩) hlasts
    | finished latest vacant ends once =>
        rw [latest] at hlatest
        cases hlatest
        rw [once how hends]

theorem token?_of_latest {s : SessionId} (h : Told token kind log b x)
    (hlatest : latest? kind log = some s) : x.token? = some (token s) := by
  cases h with
  | idle latest vacant =>
      simp [latest] at hlatest
  | active latest isOpen =>
      rw [latest] at hlatest
      cases hlatest
      rfl
  | @finished s' how latest vacant ends once =>
      rw [latest] at hlatest
      cases hlatest
      exact GestureState.token?_ended how _

end Told

end WindowRelay

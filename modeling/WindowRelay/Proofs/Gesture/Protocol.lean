import WindowRelay.Callback

/-!
# Protocols — what one session may hear

A log of callbacks is read session by session.  A `Protocol` says, for the sessions of one kind, in
which phase a session starts and which calls each phase allows.

- `callsOf n log`: the calls that the session `n` hears in a log.
- `Protocol.Path`: a sequence of calls from one phase to another.
- `Protocol.Track`: a log in which sessions open one after the other and each follows the protocol.

The main fact is `Track.path`: in a log that keeps track, the calls of every session are a path.
-/

namespace WindowRelay

/-- The calls that one session hears, in order. -/
def callsOf {K γ : Type} (calling? : Callback K → Option (Nat × γ)) (n : Nat)
    (log : List (Callback K)) : List γ :=
  log.filterMap fun c => (calling? c).bind fun call => if call.1 = n then some call.2 else none

section CallsOf

variable {K γ : Type} {calling? : Callback K → Option (Nat × γ)} {c : Callback K}

theorem callsOf_append (n : Nat) (log log' : List (Callback K)) :
    callsOf calling? n (log ++ log') = callsOf calling? n log ++ callsOf calling? n log' :=
  List.filterMap_append

theorem callsOf_cons_none (h : calling? c = none) (n : Nat) (log : List (Callback K)) :
    callsOf calling? n (c :: log) = callsOf calling? n log := by
  simp [callsOf, h]

theorem callsOf_cons_self {n : Nat} {call : γ} (h : calling? c = some (n, call))
    (log : List (Callback K)) :
    callsOf calling? n (c :: log) = call :: callsOf calling? n log := by
  simp [callsOf, h]

theorem callsOf_cons_ne {m n : Nat} {call : γ} (h : calling? c = some (m, call)) (hne : m ≠ n)
    (log : List (Callback K)) : callsOf calling? n (c :: log) = callsOf calling? n log := by
  simp [callsOf, h, hne]

end CallsOf

/-! ## Protocols -/

/-- The protocol of the sessions of one kind.  What opens a session is no call on one. -/
structure Protocol (K β γ φ : Type) where
  opening? : Callback K → Option (Nat × β)
  calling? : Callback K → Option (Nat × γ)
  opening_apart : ∀ c x, opening? c = some x → calling? c = none
  start : β → φ
  next? : φ → γ → Option φ
  /-- The changes of phase that a session does not hear of. -/
  slips : φ → φ → Prop
  ended : φ

/-- The number that the next session can have, and the open session with its phase. -/
structure Standing (φ : Type) where
  next : Nat
  current : Option (Nat × φ)

namespace Protocol

variable {K β γ φ : Type} (P : Protocol K β γ φ)

/-- A session that was opened before and is not open is over. -/
def phase (S : Standing φ) (n : Nat) : φ :=
  match S.current with
  | none => P.ended
  | some (m, ph) => if m = n then ph else P.ended

/-- A callback that opens no session of the kind and is made on none. -/
def ignores (c : Callback K) : Bool :=
  (P.opening? c).isNone && (P.calling? c).isNone

inductive Path : φ → List γ → φ → Prop
  | nil (ph : φ) : Path ph [] ph
  | call {ph ph' ph'' : φ} {c : γ} {cs : List γ} (step : P.next? ph c = some ph')
      (rest : Path ph' cs ph'') : Path ph (c :: cs) ph''
  | slip {ph ph' ph'' : φ} {cs : List γ} (slips : P.slips ph ph') (rest : Path ph' cs ph'') :
      Path ph cs ph''

/-- Sessions open one at a time under growing numbers, and are called as the protocol allows. -/
inductive Track : Standing φ → List (Callback K) → Standing φ → Prop
  | nil (S : Standing φ) : Track S [] S
  | skip {S S' : Standing φ} {log : List (Callback K)} {next : Nat} (later : S.next ≤ next)
      (rest : Track ⟨next, S.current⟩ log S') : Track S log S'
  | slip {S' : Standing φ} {log : List (Callback K)} {next n : Nat} {ph ph' : φ}
      (slips : P.slips ph ph') (rest : Track ⟨next, some (n, ph')⟩ log S') :
      Track ⟨next, some (n, ph)⟩ log S'
  | leave {S' : Standing φ} {log : List (Callback K)} {next n : Nat}
      (rest : Track ⟨next, none⟩ log S') : Track ⟨next, some (n, P.ended)⟩ log S'
  | other {S S' : Standing φ} {c : Callback K} {log : List (Callback K)}
      (opens : P.opening? c = none) (calls : P.calling? c = none) (rest : Track S log S') :
      Track S (c :: log) S'
  | opening {S' : Standing φ} {c : Callback K} {log : List (Callback K)} {next n : Nat} {x : β}
      (opens : P.opening? c = some (n, x)) (fresh : next ≤ n)
      (rest : Track ⟨n + 1, some (n, P.start x)⟩ log S') : Track ⟨next, none⟩ (c :: log) S'
  | calling {S' : Standing φ} {c : Callback K} {log : List (Callback K)} {next n : Nat} {ph ph' : φ}
      {call : γ} (calls : P.calling? c = some (n, call)) (step : P.next? ph call = some ph')
      (rest : Track ⟨next, some (n, ph')⟩ log S') : Track ⟨next, some (n, ph)⟩ (c :: log) S'

variable {P} {S S' S'' : Standing φ} {log log' : List (Callback K)}

@[simp]
theorem phase_self (next n : Nat) (ph : φ) : P.phase ⟨next, some (n, ph)⟩ n = ph := by
  simp [phase]

theorem phase_ne {m n : Nat} (hne : m ≠ n) (next : Nat) (ph : φ) :
    P.phase ⟨next, some (m, ph)⟩ n = P.ended := by
  simp [phase, hne]

namespace Track

theorem append (h : P.Track S log S') (h' : P.Track S' log' S'') :
    P.Track S (log ++ log') S'' := by
  induction h with
  | nil S => exact h'
  | skip later _ ih => exact .skip later (ih h')
  | slip slips _ ih => exact .slip slips (ih h')
  | leave _ ih => exact .leave (ih h')
  | other opens calls _ ih => exact .other opens calls (ih h')
  | opening opens fresh _ ih => exact .opening opens fresh (ih h')
  | calling calls step _ ih => exact .calling calls step (ih h')

/-- Callbacks that concern no session of the kind, while numbers may be used up by the other. -/
theorem of_ignored (ignored : log.all P.ignores = true) (later : S.next ≤ S'.next)
    (same : S'.current = S.current) : P.Track S log S' := by
  induction log with
  | nil =>
      have hskip : P.Track ⟨S'.next, S.current⟩ [] S' := by
        rw [← same]
        exact .nil S'
      exact .skip later hskip
  | cons c log ih =>
      rw [List.all_cons, Bool.and_eq_true] at ignored
      have hc : P.opening? c = none ∧ P.calling? c = none := by
        simpa [ignores] using ignored.1
      exact .other hc.1 hc.2 (ih ignored.2)

/-- Only fresh numbers are opened. -/
theorem next_le_of_opening (h : P.Track S log S') {c : Callback K} {n : Nat} {x : β} (hc : c ∈ log)
    (opens : P.opening? c = some (n, x)) : S.next ≤ n := by
  induction h with
  | nil S =>
      cases hc
  | skip later _ ih =>
      exact Nat.le_trans later (ih hc)
  | slip _ _ ih =>
      exact ih hc
  | leave _ ih =>
      exact ih hc
  | other none _ _ ih =>
      rcases List.mem_cons.1 hc with rfl | hc
      · simp [opens] at none
      · exact ih hc
  | opening first fresh _ ih =>
      rcases List.mem_cons.1 hc with rfl | hc
      · rw [opens] at first
        cases first
        exact fresh
      · exact Nat.le_trans fresh (Nat.le_of_succ_le (ih hc))
  | calling calls _ _ ih =>
      rcases List.mem_cons.1 hc with rfl | hc
      · simp [P.opening_apart _ _ opens] at calls
      · exact ih hc

end Track

/-! ## The calls of one session -/

/-- The open session was numbered before. -/
def Bounded (S : Standing φ) : Prop :=
  ∀ n ph, S.current = some (n, ph) → n < S.next

namespace Track

/-- A session that is not to come follows a path from the phase it is in. -/
theorem path (h : P.Track S log S') {n : Nat} (hn : n < S.next) :
    P.Path (P.phase S n) (callsOf P.calling? n log) (P.phase S' n) := by
  induction h with
  | nil S =>
      exact .nil _
  | skip later _ ih =>
      exact ih (Nat.lt_of_lt_of_le hn later)
  | @slip S' log next m ph ph' slips _ ih =>
      by_cases hm : m = n
      · subst hm
        have hrest := ih hn
        rw [phase_self] at hrest ⊢
        exact .slip slips hrest
      · have hrest := ih hn
        rw [phase_ne hm] at hrest ⊢
        exact hrest
  | @leave S' log next m _ ih =>
      have hover : P.phase ⟨next, some (m, P.ended)⟩ n = P.ended := by
        simp [phase]
      rw [hover]
      exact ih hn
  | other opens calls _ ih =>
      rw [callsOf_cons_none calls]
      exact ih hn
  | @opening S' c log next m x opens fresh _ ih =>
      have hm : m ≠ n := by
        have : n < next := hn
        omega
      have hrest := ih (Nat.lt_succ_of_lt (Nat.lt_of_lt_of_le hn fresh))
      rw [phase_ne hm] at hrest
      rw [callsOf_cons_none (P.opening_apart _ _ opens)]
      exact hrest
  | @calling S' c log next m ph ph' call calls step _ ih =>
      by_cases hm : m = n
      · subst hm
        have hrest := ih hn
        rw [phase_self] at hrest ⊢
        rw [callsOf_cons_self calls]
        exact .call step hrest
      · have hrest := ih hn
        rw [phase_ne hm] at hrest ⊢
        rw [callsOf_cons_ne calls hm]
        exact hrest

theorem bounded (h : P.Track S log S') (hS : Bounded S) : Bounded S' := by
  induction h with
  | nil S =>
      exact hS
  | skip later _ ih =>
      exact ih fun m ph hm => Nat.lt_of_lt_of_le (hS m ph hm) later
  | @slip _ _ _ n ph _ _ _ ih =>
      refine ih fun m ph' hm => ?_
      cases hm
      exact hS n ph rfl
  | leave _ ih =>
      refine ih fun m ph hm => ?_
      cases hm
  | other _ _ _ ih =>
      exact ih hS
  | @opening _ _ _ _ n _ _ _ _ ih =>
      refine ih fun m ph hm => ?_
      cases hm
      exact Nat.lt_succ_self n
  | @calling _ _ _ _ n ph _ _ _ _ _ ih =>
      refine ih fun m ph' hm => ?_
      cases hm
      exact hS n ph rfl

/-- A session that is open at the end was open at the start, or opens in the log. -/
theorem current_opened (h : P.Track S log S') {n : Nat} {ph' : φ}
    (hn : S'.current = some (n, ph')) :
    (∃ ph, S.current = some (n, ph)) ∨ ∃ c ∈ log, ∃ x, P.opening? c = some (n, x) := by
  induction h with
  | nil S =>
      exact .inl ⟨ph', hn⟩
  | skip _ _ ih =>
      exact ih hn
  | slip _ _ ih =>
      rcases ih hn with ⟨ph, hph⟩ | hopens
      · cases hph
        exact .inl ⟨_, rfl⟩
      · exact .inr hopens
  | leave _ ih =>
      rcases ih hn with ⟨ph, hph⟩ | hopens
      · cases hph
      · exact .inr hopens
  | other _ _ _ ih =>
      rcases ih hn with hcurrent | ⟨d, hd, hopens⟩
      · exact .inl hcurrent
      · exact .inr ⟨d, List.mem_cons_of_mem _ hd, hopens⟩
  | opening opens _ _ ih =>
      rcases ih hn with ⟨ph, hph⟩ | ⟨d, hd, hopens⟩
      · cases hph
        exact .inr ⟨_, List.mem_cons_self, _, opens⟩
      · exact .inr ⟨d, List.mem_cons_of_mem _ hd, hopens⟩
  | calling _ _ _ ih =>
      rcases ih hn with ⟨ph, hph⟩ | ⟨d, hd, hopens⟩
      · cases hph
        exact .inl ⟨_, rfl⟩
      · exact .inr ⟨d, List.mem_cons_of_mem _ hd, hopens⟩

/-- A session is called while it is the open one. -/
theorem current_of_calling (h : P.Track S log S') {before after : List (Callback K)}
    {c : Callback K} {n : Nat} {call : γ} (hlog : log = before ++ c :: after)
    (calls : P.calling? c = some (n, call)) :
    ∃ S₁ ph, P.Track S before S₁ ∧ S₁.current = some (n, ph) := by
  induction h generalizing before with
  | nil S =>
      cases before <;> cases hlog
  | skip later _ ih =>
      rcases ih hlog with ⟨S₁, ph, hbefore, hcurrent⟩
      exact ⟨S₁, ph, .skip later hbefore, hcurrent⟩
  | slip slips _ ih =>
      rcases ih hlog with ⟨S₁, ph, hbefore, hcurrent⟩
      exact ⟨S₁, ph, .slip slips hbefore, hcurrent⟩
  | leave _ ih =>
      rcases ih hlog with ⟨S₁, ph, hbefore, hcurrent⟩
      exact ⟨S₁, ph, .leave hbefore, hcurrent⟩
  | other opens none _ ih =>
      cases before with
      | nil =>
          cases hlog
          rw [calls] at none
          cases none
      | cons d before =>
          cases hlog
          rcases ih rfl with ⟨S₁, ph, hbefore, hcurrent⟩
          exact ⟨S₁, ph, .other opens none hbefore, hcurrent⟩
  | opening opens fresh _ ih =>
      cases before with
      | nil =>
          cases hlog
          rw [P.opening_apart _ _ opens] at calls
          cases calls
      | cons d before =>
          cases hlog
          rcases ih rfl with ⟨S₁, ph, hbefore, hcurrent⟩
          exact ⟨S₁, ph, .opening opens fresh hbefore, hcurrent⟩
  | calling first step _ ih =>
      cases before with
      | nil =>
          cases hlog
          rw [calls] at first
          cases first
          exact ⟨_, _, .nil _, rfl⟩
      | cons d before =>
          cases hlog
          rcases ih rfl with ⟨S₁, ph, hbefore, hcurrent⟩
          exact ⟨S₁, ph, .calling first step hbefore, hcurrent⟩

/-- Where none was open at the start, a session is called only after it opens. -/
theorem opening_before_calling {next : Nat} {before after : List (Callback K)} {c : Callback K}
    {n : Nat} {call : γ} (h : P.Track ⟨next, none⟩ (before ++ c :: after) S')
    (calls : P.calling? c = some (n, call)) : ∃ d ∈ before, ∃ x, P.opening? d = some (n, x) := by
  rcases h.current_of_calling rfl calls with ⟨S₁, ph, hbefore, hcurrent⟩
  rcases hbefore.current_opened hcurrent with ⟨ph', hnone⟩ | hopens
  · cases hnone
  · exact hopens

/-- A session that opens in the log follows a path from the start. -/
theorem path_of_opening (h : P.Track S log S') (hS : Bounded S) {c : Callback K} {n : Nat} {x : β}
    (hc : c ∈ log) (opens : P.opening? c = some (n, x)) :
    P.Path (P.start x) (callsOf P.calling? n log) (P.phase S' n) := by
  induction h with
  | nil S =>
      cases hc
  | skip later _ ih =>
      exact ih (fun m ph hm => Nat.lt_of_lt_of_le (hS m ph hm) later) hc
  | @slip S' log next m ph ph' slips _ ih =>
      refine ih ?_ hc
      intro m' ph'' hm
      cases hm
      exact hS m ph rfl
  | leave _ ih =>
      refine ih ?_ hc
      intro m ph hm
      cases hm
  | other none calls _ ih =>
      rcases List.mem_cons.1 hc with rfl | hc
      · simp [opens] at none
      · rw [callsOf_cons_none calls]
        exact ih hS hc
  | @opening S' d log next m y first fresh rest ih =>
      rw [callsOf_cons_none (P.opening_apart _ _ first)]
      rcases List.mem_cons.1 hc with rfl | hc
      · rw [opens] at first
        cases first
        simpa using rest.path (Nat.lt_succ_self n)
      · refine ih ?_ hc
        intro m' ph hm
        cases hm
        exact Nat.lt_succ_self m
  | @calling S' d log next m ph ph' call calls step rest ih =>
      rcases List.mem_cons.1 hc with rfl | hc
      · simp [P.opening_apart _ _ opens] at calls
      · -- The session that is called was numbered before the one that is still to open.
        have hm : m ≠ n := by
          have hopen : m < next := hS m ph rfl
          have hlater : next ≤ n := rest.next_le_of_opening hc opens
          omega
        rw [callsOf_cons_ne calls hm]
        refine ih ?_ hc
        intro m' ph'' hm'
        cases hm'
        exact hS m ph rfl

end Track

/-- Where no change of phase goes unheard, a path is the run of the phases on the calls. -/
theorem Path.foldlM (hslips : ∀ ph ph', ¬ P.slips ph ph') {ph ph' : φ} {cs : List γ}
    (h : P.Path ph cs ph') : cs.foldlM P.next? ph = some ph' := by
  induction h with
  | nil ph =>
      rfl
  | call step _ ih =>
      simp [List.foldlM_cons, step, ih]
  | slip slips _ _ =>
      exact absurd slips (hslips _ _)

end Protocol

end WindowRelay

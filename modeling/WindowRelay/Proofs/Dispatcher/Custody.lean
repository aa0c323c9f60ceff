import Mathlib.Data.List.Nodup
import Mathlib.Data.List.Range
import WindowRelay.Proofs.Dispatcher.Keeping

/-!
# Custody — what becomes of capabilities

Any number of capabilities may be held by hand at a time.  They share one ledger, they are used in
any order, and they outlive the line to the listener.  What holds of them all:

- `Keeper.Sound`: a capability is found under the number of its session, and the ledger counts the
  capabilities that are held.  Every move keeps this.
- `Keeper.heard_run`: a session hears the uses of its capability up to the terminal one, and nothing
  else, whatever else goes on.
-/

namespace WindowRelay

/-! ## What one session hears -/

section Heard

variable {K : Type} {log log' : List (Callback K)} {s : SessionId}

/-- The calls of a log on the session with a number. -/
def heard (n : Nat) (log : List (Callback K)) : List (Callback K) :=
  log.filter fun c => decide (c.target?.map SessionId.number = some n)

theorem heard_append (n : Nat) (log log' : List (Callback K)) :
    heard n (log ++ log') = heard n log ++ heard n log' :=
  List.filter_append log log'

theorem heard_eq_nil {n : Nat} (h : ∀ c ∈ log, c.target?.map SessionId.number ≠ some n) :
    heard n log = [] := by
  simpa [heard] using h

theorem heard_eq_self {n : Nat} (h : ∀ c ∈ log, c.target?.map SessionId.number = some n) :
    heard n log = log := by
  simpa [heard] using h

/-- A session ends once in a log if the last call that it hears ends it, and no other does. -/
theorem endsOnce_of_heard {front : List (Callback K)} {last : Callback K}
    (h : heard s.number log = front ++ [last]) (hlast : last.ends? = some s)
    (hfront : ∀ c ∈ front, c.ends? = none) : EndsOnce s log := by
  -- The calls of the session are picked out of the log: what stands between them is on others.
  rcases List.filter_eq_append_iff.1 h with ⟨before, tail, rfl, hbefore, htail⟩
  rcases List.filter_eq_cons_iff.1 htail with ⟨between, after, rfl, hbetween, -, hafter⟩
  refine ⟨before ++ between, last, after, by simp, hlast, ?_, ?_⟩
  · intro c hc hends
    have htarget : c.target?.map SessionId.number = some s.number := by
      simp [Callback.target?_of_ends? hends]
    rcases List.mem_append.1 hc with hc | hc
    · have hmem : c ∈ front := by
        rw [← hbefore]
        exact List.mem_filter.2 ⟨hc, by simpa using htarget⟩
      rw [hfront c hmem] at hends
      cases hends
    · exact hbetween c hc (by simpa using htarget)
  · intro c hc htarget
    have hnot := List.filter_eq_nil_iff.1 hafter c hc
    exact hnot (by simp [htarget])

/-- What comes before the end of a session does not matter, if it does not end it. -/
theorem EndsOnce.prepend (h : EndsOnce s log') (hlog : ∀ c ∈ log, c.ends? ≠ some s) :
    EndsOnce s (log ++ log') := by
  rcases h with ⟨before, last, after, rfl, hlast, hbefore, hafter⟩
  refine ⟨log ++ before, last, after, by simp, hlast, ?_, hafter⟩
  intro c hc
  rcases List.mem_append.1 hc with hc | hc
  · exact hlog c hc
  · exact hbefore c hc

end Heard

namespace Keeper

variable {K : Type} {k k' : Keeper K} {t : Turn K} {es : List (Effect K)}

/-! ## Uses of one capability -/

/-- The uses up to the terminal one; the capability is gone after that. -/
def throughEnd : List (Handling K) → List (Handling K)
  | [] => []
  | h :: hs => if h.isTerminal then [h] else h :: throughEnd hs

theorem throughEnd_append (hs hs' : List (Handling K)) :
    throughEnd (hs ++ hs') =
      throughEnd hs ++ if hs.any Handling.isTerminal then [] else throughEnd hs' := by
  induction hs with
  | nil =>
      rfl
  | cons h hs ih =>
      cases hterminal : h.isTerminal with
      | true => simp [throughEnd, hterminal]
      | false => simp [throughEnd, hterminal, ih]

/-- Uses that end with a drop have a terminal one, and the last that counts is the first of
these. -/
theorem throughEnd_drop (hs : List (Handling K)) :
    ∃ front last, throughEnd (hs ++ [.drop]) = front ++ [last] ∧ last.isTerminal = true ∧
      ∀ h ∈ front, h.isTerminal = false := by
  induction hs with
  | nil =>
      exact ⟨[], .drop, rfl, rfl, by simp⟩
  | cons h hs ih =>
      cases hterminal : h.isTerminal with
      | true =>
          exact ⟨[], h, by simp [throughEnd, hterminal], hterminal, by simp⟩
      | false =>
          rcases ih with ⟨front, last, heq, hlast, hfront⟩
          refine ⟨h :: front, last, by simp [throughEnd, hterminal, heq], hlast, ?_⟩
          simpa [hterminal] using hfront

/-- The calls on the capability under an index. -/
def uses (n : Nat) (turns : List (Turn K)) : List (Handling K) :=
  turns.filterMap fun t => t.use? n

/-! ## Held capabilities -/

@[simp]
theorem held?_hear (l : Listener K) (n : Nat) : (k.hear l).held? n = k.held? n :=
  rfl

@[simp]
theorem held?_cutLine (n : Nat) : k.cutLine.held? n = k.held? n :=
  rfl

theorem held?_eq_some {n : Nat} {c : Held} : k.held? n = some c ↔ k.held[n]? = some (some c) := by
  simp [held?, Option.join_eq_some_iff]

theorem lt_of_held? {n : Nat} {c : Held} (h : k.held? n = some c) : n < k.held.length :=
  (List.getElem?_eq_some_iff.1 (held?_eq_some.1 h)).1

theorem held?_handOut (kind : SessionKind) (n : Nat) :
    (k.handOut kind).held? n =
      if n = k.held.length then
        some (.ofSession k.dispatcher.window ⟨kind, k.dispatcher.ledger.opened⟩)
      else k.held? n := by
  unfold held? handOut
  rcases Nat.lt_trichotomy n k.held.length with hlt | rfl | hgt
  · simp [List.getElem?_append_left hlt, Nat.ne_of_lt hlt]
  · simp
  -- Beyond the new capability there is none, as there was none before.
  · have hnone : k.held[n]? = none := List.getElem?_eq_none (Nat.le_of_lt hgt)
    have hbeyond : n - k.held.length ≠ 0 := Nat.sub_ne_zero_of_lt hgt
    simp [List.getElem?_append_right (Nat.le_of_lt hgt), Nat.ne_of_gt hgt, hnone,
      hbeyond]

theorem held?_used (i : Nat) (h : Handling K) (n : Nat) :
    (k.used i h).held? n = if i = n ∧ h.isTerminal = true then none else k.held? n := by
  cases hterminal : h.isTerminal with
  | false =>
      simp [used, hterminal]
  | true =>
      by_cases hn : i = n
      · subst hn
        simp [used, hterminal, held?, List.getElem?_set]
        split <;> rfl
      · simp [used, hterminal, held?, hn]

theorem live_handOut (kind : SessionKind) : (k.handOut kind).live = k.live + 1 := by
  simp [live, handOut]

theorem live_pos {n : Nat} {c : Held} (h : k.held? n = some c) : 0 < k.live := by
  have hmem : some c ∈ k.held := List.mem_of_getElem? (held?_eq_some.1 h)
  exact List.countP_pos_iff.2 ⟨some c, hmem, rfl⟩

theorem live_used {i : Nat} {c : Held} (held : k.held? i = some c) (h : Handling K) :
    (k.used i h).live = if h.isTerminal then k.live - 1 else k.live := by
  cases hterminal : h.isTerminal with
  | false =>
      simp [used, hterminal]
  | true =>
      rcases List.getElem?_eq_some_iff.1 (held?_eq_some.1 held) with ⟨hlt, hget⟩
      simp [used, hterminal, live, List.countP_set hlt, hget]

/-! ## Soundness -/

structure Sound (k : Keeper K) : Prop where
  numbered : ∀ n c, k.held? n = some c → c.session.number = n
  counted : k.held.length = k.dispatcher.ledger.opened
  balanced : k.dispatcher.ledger.outstanding = k.live

namespace Sound

theorem initial (window : WindowId) (listener : Listener K) :
    (ofDispatcher (Dispatcher.attach window listener)).Sound where
  numbered n c h := by simp [held?, ofDispatcher] at h
  counted := rfl
  balanced := rfl

theorem handOut (h : k.Sound) (kind : SessionKind) : (k.handOut kind).Sound where
  numbered n c hc := by
    rw [held?_handOut] at hc
    split at hc
    · rename_i hn
      cases hc
      simp [hn, h.counted]
    · exact h.numbered n c hc
  counted := by simp [Keeper.handOut, Ledger.enter, h.counted]
  balanced := by
    rw [live_handOut, ← h.balanced]
    rfl

/-- The ledger counts down when a capability is used up, and not below zero: the capability itself
was counted. -/
theorem used (h : k.Sound) {i : Nat} {c : Held} (held : k.held? i = some c) (u : Handling K) :
    (k.used i u).Sound where
  numbered n c' hc := by
    rw [held?_used] at hc
    split at hc
    · cases hc
    · exact h.numbered n c' hc
  counted := by
    unfold Keeper.used
    split
    · simpa [Ledger.leave] using h.counted
    · exact h.counted
  balanced := by
    rw [live_used held, ← h.balanced]
    unfold Keeper.used
    split <;> rfl

end Sound

theorem Move.sound (h : Move k t es k') (sound : k.Sound) : k'.Sound := by
  cases h with
  | notice l es uses asks cuts notices => exact ⟨sound.numbered, sound.counted, sound.balanced⟩
  | opening uses asks cuts attached => exact sound.handOut _
  | refusal uses cut => exact sound
  | use proper held => exact sound.used held _
  | futile proper gone => exact sound
  | farewell proper attached => exact ⟨sound.numbered, sound.counted, sound.balanced⟩
  | drop proper => exact ⟨sound.numbered, sound.counted, sound.balanced⟩

/-! ## What a move makes heard -/

theorem callback_isNotice {c : Callback K} (h : (Effect.callback c).isNotice = true) :
    c.target? = none ∧ c.opens? = none := by
  cases c <;> first | exact ⟨rfl, rfl⟩ | cases h

theorem target?_of_notices (notices : ∀ e ∈ es, e.isNotice = true) :
    ∀ c ∈ Effect.callbacks es, c.target? = none ∧ c.opens? = none := by
  intro c hc
  exact callback_isNotice (notices _ (Effect.mem_callbacks.1 hc))

/-- A session hears how its capability is used, and nothing of the use of others. -/
theorem heard_hears (c : Held) (h : Handling K) (n : Nat) :
    heard n (c.hears h) = if c.session.number = n then c.hears h else [] := by
  split
  · rename_i hn
    refine heard_eq_self fun x hx => ?_
    simp [Held.target?_of_hears x hx, hn]
  · rename_i hn
    refine heard_eq_nil fun x hx => ?_
    simpa [Held.target?_of_hears x hx] using hn

/-- What the session with a number hears of a move, and whether its capability is still held. -/
theorem Move.heard (h : Move k t es k') (sound : k.Sound) {n : Nat}
    (hn : n < k.dispatcher.ledger.opened) :
    heard n (Effect.callbacks es) =
        ((k.held? n).toList.flatMap fun c => (t.use? n).toList.flatMap c.hears) ∧
      k'.held? n = if (t.use? n).any Handling.isTerminal then none else k.held? n := by
  cases h with
  | notice l es uses asks cuts notices =>
      have hnil : WindowRelay.heard n (Effect.callbacks es) = [] := by
        refine heard_eq_nil fun c hc => ?_
        simp [target?_of_notices notices c hc]
      simp [uses n, hnil]
  | opening uses asks cuts attached =>
      -- The session that begins is not counted yet, so its number is not `n`; nor is its index.
      have htarget :=
        Callback.target?_of_opens? (Turn.opens?_of_asks? asks k.dispatcher.ledger.opened)
      have hne : n ≠ k.held.length := by
        have := sound.counted
        omega
      simp [uses n, Effect.callbacks, Effect.callback?, WindowRelay.heard, htarget, held?_handOut,
        hne]
  | refusal uses cut =>
      simp [uses n, Effect.callbacks, WindowRelay.heard]
  | use proper held =>
      rename_i i h c
      -- A capability lies under the number of its session, so the use is heard under its own index.
      rw [Held.callbacks_effects, heard_hears, sound.numbered i c held, held?_used]
      by_cases hi : i = n
      · subst hi
        cases hterminal : h.isTerminal <;> simp [Turn.use?, held, hterminal]
      · simp [Turn.use?, hi]
  | futile proper gone =>
      rename_i i h
      by_cases hi : i = n
      · subst hi
        simp [gone, Effect.callbacks, WindowRelay.heard]
      · simp [Turn.use?, hi, Effect.callbacks, WindowRelay.heard]
  | farewell proper attached =>
      simp [Turn.use?, WindowRelay.heard, Callback.target?]
  | drop proper =>
      simp [Turn.use?, Effect.callbacks, WindowRelay.heard]

/-- A move makes no call on a session that is yet to begin. -/
theorem Move.target_lt (h : Move k t es k') (sound : k.Sound) {c : Callback K} {s : SessionId}
    (hc : c ∈ Effect.callbacks es) (htarget : c.target? = some s) :
    s.number < k.dispatcher.ledger.opened := by
  cases h with
  | notice l es uses asks cuts notices =>
      rw [(target?_of_notices notices c hc).1] at htarget
      cases htarget
  | opening uses asks cuts attached =>
      have hopens := Turn.opens?_of_asks? asks k.dispatcher.ledger.opened
      rw [Effect.callback.inj (List.mem_singleton.1 (Effect.mem_callbacks.1 hc)),
        Callback.target?_of_opens? hopens] at htarget
      cases htarget
  | refusal uses cut => cases hc
  | use proper held =>
      rename_i i h c'
      rw [Held.callbacks_effects] at hc
      rw [Held.target?_of_hears c hc] at htarget
      cases htarget
      rw [sound.numbered i c' held, ← sound.counted]
      exact lt_of_held? held
  | futile proper gone => cases hc
  | farewell proper attached =>
      rw [Dispatcher.callbacks_lastWords, List.mem_singleton] at hc
      rw [hc] at htarget
      cases htarget
  | drop proper => cases hc

/-- A move begins one session at most, which gets the next number. -/
theorem Move.begins (h : Move k t es k') :
    (∃ kind, begun (Effect.callbacks es) = [⟨kind, k.dispatcher.ledger.opened⟩] ∧
        k' = k.handOut kind) ∨
      (begun (Effect.callbacks es) = [] ∧
        k'.dispatcher.ledger.opened = k.dispatcher.ledger.opened) := by
  cases h with
  | notice l es uses asks cuts notices =>
      refine .inr ⟨List.filterMap_eq_nil_iff.2 fun c hc => ?_, rfl⟩
      exact (target?_of_notices notices c hc).2
  | opening uses asks cuts attached =>
      refine .inl ⟨_, ?_, rfl⟩
      simp [begun, Effect.callbacks, Effect.callback?, Turn.opens?_of_asks? asks]
  | refusal uses cut => exact .inr ⟨rfl, rfl⟩
  | use proper held =>
      refine .inr ⟨List.filterMap_eq_nil_iff.2 fun c hc => ?_, ?_⟩
      · rw [Held.callbacks_effects] at hc
        exact Callback.opens?_of_target? (Held.target?_of_hears c hc)
      · unfold used
        split <;> rfl
  | futile proper gone => exact .inr ⟨rfl, rfl⟩
  | farewell proper attached =>
      refine .inr ⟨?_, rfl⟩
      rw [Dispatcher.callbacks_lastWords]
      rfl
  | drop proper => exact .inr ⟨rfl, rfl⟩

theorem cutsLine_of_hears {c : Held} {h : Handling K} :
    ∀ e ∈ c.effects h, e.cutsLine = false := by
  cases c <;> cases h <;> simp [Held.effects, Held.hears, Handling.complaints, Effect.cutsLine]

/-- The listener is told of the close of its window while the line is not cut, and that cuts it. -/
theorem Move.cuts (h : Move k t es k') :
    es.filter Effect.cutsLine =
        (if k.dispatcher.attached && t.cuts? == some true then [.callback .closed] else []) ∧
      k'.dispatcher.attached = (k.dispatcher.attached && t.cuts?.isNone) := by
  have hnil (hcuts : t.cuts? = none) (h : ∀ e ∈ es, e.cutsLine = false) :
      es.filter Effect.cutsLine =
        if k.dispatcher.attached && t.cuts? == some true then [.callback .closed] else [] := by
    have hfilter : es.filter Effect.cutsLine = [] := List.filter_eq_nil_iff.2 (by simpa using h)
    simp [hfilter, hcuts]
  cases h with
  | notice l es uses asks cuts notices =>
      exact ⟨hnil cuts fun e he => Effect.cutsLine_of_isNotice (notices e he), by simp [cuts, hear]⟩
  | opening uses asks cuts attached =>
      refine ⟨hnil cuts fun e he => ?_, by simp [cuts, handOut]⟩
      have hopens := Turn.opens?_of_asks? asks k.dispatcher.ledger.opened
      rw [List.mem_singleton.1 he]
      unfold Effect.cutsLine
      split
      · rename_i hclosed
        rw [Effect.callback.inj hclosed] at hopens
        cases hopens
      · rfl
  | refusal uses cut => simp [cut]
  | use proper held =>
      refine ⟨hnil rfl cutsLine_of_hears, ?_⟩
      unfold used
      split <;> simp [Turn.cuts?]
  | futile proper gone => simp [Turn.cuts?]
  | farewell proper attached =>
      refine ⟨?_, by simp [Turn.cuts?, cutLine]⟩
      rw [Dispatcher.lastWords, attached]
      split <;> rfl
  | drop proper => simp [Turn.cuts?, cutLine]

/-- The complaints about leaks: that of a drop, and that of a close. -/
theorem Move.leaks (h : Move k t es k') (sound : k.Sound) :
    (Effect.warning .capabilityDropped ∈ es ↔
        ∃ n c, t.use? n = some .drop ∧ k.held? n = some c) ∧
      (Effect.warning .closedWithOpenCapabilities ∈ es ↔
        t.cuts? = some true ∧ k.dispatcher.attached = true ∧ 0 < k.live) := by
  cases h with
  | notice l es uses asks cuts notices =>
      have hleak (w : Warning) (hw : w.isLeak = true) : Effect.warning w ∉ es := by
        intro hmem
        have hnotice := notices _ hmem
        simp [Effect.isNotice, hw] at hnotice
      simp [uses, cuts, hleak .capabilityDropped rfl, hleak .closedWithOpenCapabilities rfl]
  | opening uses asks cuts attached => simp [uses, cuts]
  | refusal uses cut => simp [uses, cut]
  | use proper held =>
      rename_i i h c
      have hdropped : Effect.warning .capabilityDropped ∈ c.effects h ↔ h = .drop := by
        cases h <;> simp [Held.effects, Handling.complaints]
      have hclosed : Effect.warning .closedWithOpenCapabilities ∉ c.effects h := by
        cases h <;> simp [Held.effects, Handling.complaints]
      rw [hdropped]
      refine ⟨⟨fun hdrop => ⟨i, c, by simp [Turn.use?, hdrop], held⟩, ?_⟩,
        by simp [hclosed, Turn.cuts?]⟩
      rintro ⟨n, c', huse, -⟩
      simp only [Turn.use?] at huse
      split at huse
      · exact Option.some.inj huse
      · cases huse
  | futile proper gone =>
      refine ⟨iff_of_false (by simp) ?_, by simp [Turn.cuts?]⟩
      rintro ⟨n, c, huse, hheld⟩
      simp only [Turn.use?] at huse
      split at huse
      · rename_i hi
        rw [← hi, gone] at hheld
        cases hheld
      · cases huse
  | farewell proper attached =>
      simp [Dispatcher.lastWords, Turn.use?, Turn.cuts?, sound.balanced, attached]
  | drop proper => simp [Turn.use?, Turn.cuts?]

/-! ## Runs -/

section Runs

/-- The first use and those after it, as a session hears them. -/
theorem throughEnd_cons (h? : Option (Handling K)) (hs : List (Handling K)) :
    throughEnd (h?.toList ++ hs) =
      h?.toList ++ if h?.any Handling.isTerminal then [] else throughEnd hs := by
  cases h? with
  | none =>
      rfl
  | some h =>
      cases hterminal : h.isTerminal <;> simp [throughEnd, hterminal]

theorem uses_cons (n : Nat) (t : Turn K) (turns : List (Turn K)) :
    uses n (t :: turns) = (t.use? n).toList ++ uses n turns := by
  cases huse : t.use? n <;> simp [uses, huse]

theorem sound_run (sound : k.Sound) (turns : List (Turn K)) :
    ((Action.replay turn turns).run k).state.Sound := by
  induction turns generalizing k with
  | nil => exact sound
  | cons t turns ih =>
      rw [Action.run_replay_cons]
      exact ih ((moves t k).sound sound)

theorem Move.opened_le (h : Move k t es k') :
    k.dispatcher.ledger.opened ≤ k'.dispatcher.ledger.opened := by
  rcases h.begins with ⟨kind, -, rfl⟩ | ⟨-, hopened⟩
  · simp [handOut, Ledger.enter]
  · omega

/-- A session hears the uses of its capability through the terminal one, whatever else goes on. -/
theorem heard_run (sound : k.Sound) {n : Nat} (hn : n < k.dispatcher.ledger.opened)
    (turns : List (Turn K)) :
    heard n (Effect.callbacks ((Action.replay turn turns).run k).effects) =
        ((k.held? n).toList.flatMap fun c => (throughEnd (uses n turns)).flatMap c.hears) ∧
      ((Action.replay turn turns).run k).state.held? n =
        if (uses n turns).any Handling.isTerminal then none else k.held? n := by
  induction turns generalizing k with
  | nil =>
      simp [heard, Effect.callbacks, uses, throughEnd]
  | cons t turns ih =>
      have hmove := moves t k
      rcases hmove.heard sound hn with ⟨hheard, hheld⟩
      rcases ih (hmove.sound sound) (Nat.lt_of_lt_of_le hn hmove.opened_le) with ⟨hrest, hlast⟩
      rw [Action.run_replay_cons]
      simp only [Effect.callbacks_append, heard_append, hheard, hrest, hlast, hheld, uses_cons,
        throughEnd_cons, List.any_append]
      cases t.use? n with
      | none => simp
      | some h => cases hterminal : h.isTerminal <;> cases k.held? n <;> simp [hterminal]

/-- The sessions that begin in a run are numbered on. -/
theorem numbers_run (turns : List (Turn K)) (k : Keeper K) :
    (begun (Effect.callbacks ((Action.replay turn turns).run k).effects)).map SessionId.number =
      List.range' k.dispatcher.ledger.opened
        (((Action.replay turn turns).run k).state.dispatcher.ledger.opened -
          k.dispatcher.ledger.opened) ∧
    k.dispatcher.ledger.opened ≤
      ((Action.replay turn turns).run k).state.dispatcher.ledger.opened := by
  induction turns generalizing k with
  | nil =>
      simp [begun, Effect.callbacks]
  | cons t turns ih =>
      rcases ih ((turn t).run k).state with ⟨hrest, hle⟩
      rw [Action.run_replay_cons]
      simp only [Effect.callbacks_append, begun_append, List.map_append, hrest]
      rcases (moves t k).begins with ⟨kind, hbegun, hstate⟩ | ⟨hbegun, hopened⟩
      -- A session that begins takes the first number, and the rest of the run goes on from the next.
      · have hopened : ((turn t).run k).state.dispatcher.ledger.opened =
            k.dispatcher.ledger.opened + 1 := by
          rw [hstate]
          rfl
        rw [hopened] at hle ⊢
        refine ⟨?_, by omega⟩
        have hsub (m n : Nat) (h : m + 1 ≤ n) : n - m = (n - (m + 1)) + 1 := by omega
        rw [hbegun, hsub _ _ hle, List.range'_succ]
        rfl
      · rw [hopened] at hle ⊢
        simpa [hbegun] using hle

theorem cuts_run (turns : List (Turn K)) (k : Keeper K) :
    ((Action.replay turn turns).run k).effects.filter Effect.cutsLine =
        (if k.dispatcher.attached && turns.findSome? Turn.cuts? == some true
          then [.callback .closed] else []) ∧
      ((Action.replay turn turns).run k).state.dispatcher.attached =
        (k.dispatcher.attached && (turns.findSome? Turn.cuts?).isNone) := by
  induction turns generalizing k with
  | nil =>
      simp
  | cons t turns ih =>
      rcases (moves t k).cuts with ⟨hfirst, hattached⟩
      rcases ih ((turn t).run k).state with ⟨hrest, hlast⟩
      rw [Action.run_replay_cons]
      cases hcuts : t.cuts? <;>
        simp [hfirst, hrest, hlast, hattached, hcuts]

end Runs

/-! ## The end of a keeper -/

theorem run_each_drop (cs : List Held) (d : Dispatcher K) :
    (Action.each Held.drop cs).run d =
      ⟨(), { d with ledger.outstanding := d.ledger.outstanding - cs.length },
        cs.flatMap fun c => c.effects .drop⟩ := by
  induction cs generalizing d with
  | nil =>
      rfl
  | cons c cs ih =>
      have hdrop : (Held.drop c).run d =
          ⟨(), { d with ledger := d.ledger.leave }, c.effects .drop⟩ := by
        cases c <;> rfl
      simp [Action.each, hdrop, ih, Ledger.leave, Nat.sub_sub, Nat.add_comm]

theorem length_held (k : Keeper K) : (k.held.filterMap id).length = k.live := by
  simp [live, List.length_filterMap_eq_countP]

/-- All that is still held is dropped. -/
theorem run_drop (k : Keeper K) :
    drop.run k =
      ⟨(), ⟨{ k.dispatcher with
              attached := false
              ledger.outstanding := k.dispatcher.ledger.outstanding - k.live }, []⟩,
        (k.held.filterMap id).flatMap fun c => c.effects .drop⟩ := by
  simp only [drop, dispatch, Action.run_bind, Action.run_within, Action.run_get, Action.run_modify,
    Dispatcher.drop, run_each_drop, length_held]
  rfl

theorem callbacks_drop (k : Keeper K) :
    Effect.callbacks (drop.run k).effects =
      (k.held.filterMap id).flatMap fun c => c.hears .drop := by
  have heffects (c : Held) : List.filterMap Effect.callback? (c.effects (.drop : Handling K)) =
      c.hears .drop :=
    c.callbacks_effects .drop
  rw [run_drop, Effect.callbacks, List.filterMap_flatMap]
  simp only [heffects]

theorem heard_drops (cs : List (Option Held))
    (numbered : ∀ (n : Nat) (c : Held), cs[n]? = some (some c) → c.session.number = n)
    (n : Nat) :
    heard n ((cs.filterMap id).flatMap fun c => c.hears (.drop : Handling K)) =
      cs[n]?.join.toList.flatMap fun c => c.hears .drop := by
  induction cs using List.reverseRecOn with
  | nil =>
      rfl
  | append_singleton cs c? ih =>
      have hfront : ∀ (n : Nat) (c : Held), cs[n]? = some (some c) → c.session.number = n := by
        intro m c hc
        have hlt := (List.getElem?_eq_some_iff.1 hc).1
        exact numbered m c (by rw [List.getElem?_append_left hlt, hc])
      -- The last capability is that of the session whose number is the length of the rest.
      have hlast : heard n (c?.toList.flatMap fun c => c.hears (.drop : Handling K)) =
          if cs.length = n then c?.toList.flatMap fun c => c.hears .drop else [] := by
        cases c? with
        | none =>
            simp [heard]
        | some c =>
            have hnumber := numbered cs.length c (by simp)
            simp [heard_hears, hnumber]
      have hsplit : (cs ++ [c?]).filterMap id = cs.filterMap id ++ c?.toList := by
        cases c? <;> simp
      rw [hsplit, List.flatMap_append, heard_append, ih hfront, hlast]
      rcases Nat.lt_trichotomy n cs.length with hlt | rfl | hgt
      · simp [List.getElem?_append_left hlt, Nat.ne_of_gt hlt]
      · simp
      · have hbeyond : (cs ++ [c?])[n]? = none :=
          List.getElem?_eq_none (by simpa using Nat.succ_le_of_lt hgt)
        have hbeyond' : cs[n]? = none :=
          List.getElem?_eq_none (Nat.le_of_lt hgt)
        rw [hbeyond, hbeyond', if_neg (Nat.ne_of_lt hgt)]
        rfl

theorem heard_drop (sound : k.Sound) (n : Nat) :
    heard n (Effect.callbacks (drop.run k).effects) =
      (k.held? n).toList.flatMap fun c => c.hears .drop := by
  rw [callbacks_drop]
  exact heard_drops k.held (fun m c hc => sound.numbered m c (held?_eq_some.2 hc)) n

theorem begun_drop (k : Keeper K) : begun (Effect.callbacks (drop.run k).effects) = [] := by
  rw [callbacks_drop]
  refine List.filterMap_eq_nil_iff.2 fun x hx => ?_
  rcases List.mem_flatMap.1 hx with ⟨c, -, hc⟩
  exact Callback.opens?_of_target? (Held.target?_of_hears x hc)

theorem warnings_drop (k : Keeper K) :
    Effect.warnings (drop.run k).effects = List.replicate k.live .capabilityDropped := by
  have heffects (c : Held) : List.filterMap Effect.warning? (c.effects (.drop : Handling K)) =
      [.capabilityDropped] :=
    c.warnings_effects .drop
  calc Effect.warnings (drop.run k).effects
      = (k.held.filterMap id).flatMap fun _ => [Warning.capabilityDropped] := by
        rw [run_drop, Effect.warnings, List.filterMap_flatMap]
        simp only [heffects]
    _ = (k.held.filterMap id).map fun _ => Warning.capabilityDropped :=
        List.map_eq_flatMap.symm
    _ = List.replicate k.live .capabilityDropped := by rw [List.map_const', length_held]

/-! ## Whole lives -/

/-- All callbacks of a life: those of its turns, and those of the drop that ends it. -/
def wholeLog (turns : List (Turn K)) (k : Keeper K) : List (Callback K) :=
  Effect.callbacks ((Action.replay turn turns).run k).effects ++
    Effect.callbacks (drop.run ((Action.replay turn turns).run k).state).effects

theorem wholeLog_cons (t : Turn K) (turns : List (Turn K)) (k : Keeper K) :
    wholeLog (t :: turns) k =
      Effect.callbacks ((turn t).run k).effects ++ wholeLog turns ((turn t).run k).state := by
  simp [wholeLog, Action.run_replay_cons]

theorem begun_wholeLog (turns : List (Turn K)) (k : Keeper K) :
    begun (wholeLog turns k) =
      begun (Effect.callbacks ((Action.replay turn turns).run k).effects) := by
  rw [wholeLog, begun_append, begun_drop, List.append_nil]

/-- The drop of the keeper is the last use of every capability. -/
theorem heard_wholeLog (sound : k.Sound) {n : Nat} {c : Held} (held : k.held? n = some c)
    (turns : List (Turn K)) :
    heard n (wholeLog turns k) = (throughEnd (uses n turns ++ [.drop])).flatMap c.hears := by
  have hn : n < k.dispatcher.ledger.opened := by
    rw [← sound.counted]
    exact lt_of_held? held
  rcases heard_run sound hn turns with ⟨hlife, hstill⟩
  rw [wholeLog, heard_append, hlife, heard_drop (sound_run sound turns), hstill,
    throughEnd_append, held]
  cases (uses n turns).any Handling.isTerminal <;> simp [throughEnd, Handling.isTerminal]

theorem endsOnce_of_held (sound : k.Sound) {n : Nat} {c : Held} (held : k.held? n = some c)
    (turns : List (Turn K)) : EndsOnce c.session (wholeLog turns k) := by
  have hheard := heard_wholeLog sound held turns
  -- Whether it is used up earlier or not, one terminal use counts: the drop stands at the end.
  rcases throughEnd_drop (uses n turns) with ⟨front, last, huses, hlast, hfront⟩
  rcases Held.hears_of_isTerminal c hlast with ⟨x, hx, hends⟩
  have hsplit : heard c.session.number (wholeLog turns k) = front.flatMap c.hears ++ [x] := by
    rw [sound.numbered n c held, hheard, huses]
    simp [hx]
  refine endsOnce_of_heard hsplit hends fun y hy => ?_
  rcases List.mem_flatMap.1 hy with ⟨h, hh, hy⟩
  simp [Held.ends?_of_hears y hy, hfront h hh]

/-- Every session that begins in a life ends once in it. -/
theorem endsOnce_of_begun (sound : k.Sound) (turns : List (Turn K)) {s : SessionId}
    (hs : s ∈ begun (wholeLog turns k)) : EndsOnce s (wholeLog turns k) := by
  rw [begun_wholeLog] at hs
  induction turns generalizing k with
  | nil =>
      cases hs
  | cons t turns ih =>
      have hmove := moves t k
      rw [Action.run_replay_cons, Effect.callbacks_append, begun_append, List.mem_append] at hs
      rw [wholeLog_cons]
      -- The first turn makes no call on a session with a number as high as that of `s`.
      have hprepend (hopened : k.dispatcher.ledger.opened ≤ s.number) :
          ∀ c ∈ Effect.callbacks ((turn t).run k).effects, c.ends? ≠ some s := by
        intro c hc hends
        have hlt := hmove.target_lt sound hc (Callback.target?_of_ends? hends)
        omega
      rcases hs with hs | hs
      · rcases hmove.begins with ⟨kind, hbegun, hstate⟩ | ⟨hbegun, -⟩
        · rw [hbegun, List.mem_singleton] at hs
          have hheld : ((turn t).run k).state.held? k.dispatcher.ledger.opened =
              some (.ofSession k.dispatcher.window s) := by
            rw [hstate, held?_handOut, sound.counted, if_pos rfl, hs]
          have hends := endsOnce_of_held (hmove.sound sound) hheld turns
          rw [Held.session_ofSession] at hends
          exact hends.prepend (hprepend (by simp [hs]))
        · rw [hbegun] at hs
          cases hs
      · refine (ih (hmove.sound sound) hs).prepend (hprepend ?_)
        have hnumbers := (numbers_run turns ((turn t).run k).state).1
        have hmem : s.number ∈ List.map SessionId.number _ := List.mem_map_of_mem hs
        rw [hnumbers, List.mem_range'_1] at hmem
        exact Nat.le_trans hmove.opened_le hmem.1

/-- A session is handed out for the asking, under the next number, until the line is cut. -/
theorem run_asking {c : Call K} {proper : c.isProper = true} {kind : SessionKind}
    {request : Nat → Callback K} (h : (Turn.call c proper).asks? = some (kind, request))
    (sound : k.Sound) :
    (step c).run k =
      if k.dispatcher.attached then
        ⟨.kept (some k.dispatcher.ledger.opened), k.handOut kind,
          [.callback (request k.dispatcher.ledger.opened)]⟩
      else ⟨.kept none, k, []⟩ := by
  rw [← sound.counted]
  cases hattached : k.dispatcher.attached with
  | true => cases c <;> cases h <;> simp [run_beginDrag, run_beginScroll, hattached, sound.counted]
  | false => cases c <;> cases h <;> simp [run_beginDrag_cut, run_beginScroll_cut, hattached]

/-- Capabilities held by hand: whoever holds any number of them, uses them in any order, and cuts
the line before, between or after,

- each session that begins ends once, and hears nothing after that;
- the ledger counts the capabilities held, and has counted each that is still to be used;
- a session hears all uses of its capability through the first terminal one, a drop being a cancel
  to it, whether or not the line is cut, and nothing else;
- a session is handed out as long as the line is not cut, and not afterwards;
- the listener hears of the close of its window once, if that is what cuts the line;
- a leak is complained about at the close of a window with capabilities held, and at the drop of a
  capability, and at no other time. -/
theorem every_capability_accounted (window : WindowId) (listener : Listener K)
    (turns : List (Turn K)) :
    let start := ofDispatcher (Dispatcher.attach window listener)
    let life := (Action.replay turn turns).run start
    let k := life.state
    let last := drop.run k
    let whole := Effect.callbacks (life.effects ++ last.effects)
    ((begun whole).Nodup ∧ ∀ s ∈ begun whole, EndsOnce s whole) ∧
      (k.dispatcher.ledger.outstanding = k.live ∧
        (∀ n c, k.held? n = some c → 0 < k.dispatcher.ledger.outstanding) ∧
        last.state.dispatcher.ledger.outstanding = 0) ∧
      (∀ n c, k.held? n = some c → c.session.number = n ∧ ∀ later,
        let more := (Action.replay turn later).run k
        heard n (Effect.callbacks more.effects) = (throughEnd (uses n later)).flatMap c.hears ∧
          heard n (Effect.callbacks (more.effects ++ (drop.run more.state).effects)) =
            (throughEnd (uses n later ++ [.drop])).flatMap c.hears) ∧
      (∀ c proper kind request, (Turn.call c proper).asks? = some (kind, request) →
        (step c).run k =
          if k.dispatcher.attached then
            ⟨.kept (some k.dispatcher.ledger.opened), k.handOut kind,
              [.callback (request k.dispatcher.ledger.opened)]⟩
          else ⟨.kept none, k, []⟩) ∧
      (k.dispatcher.attached = (turns.findSome? Turn.cuts?).isNone ∧
        life.effects.filter Effect.cutsLine =
          if turns.findSome? Turn.cuts? = some true then [.callback .closed] else []) ∧
      (∀ t, (Warning.capabilityDropped ∈ Effect.warnings ((turn t).run k).effects ↔
            ∃ n c, t.use? n = some .drop ∧ k.held? n = some c) ∧
          (Warning.closedWithOpenCapabilities ∈ Effect.warnings ((turn t).run k).effects ↔
            t.cuts? = some true ∧ k.dispatcher.attached = true ∧
              k.dispatcher.ledger.outstanding ≠ 0)) ∧
      Effect.warnings last.effects = List.replicate k.live .capabilityDropped := by
  intro start life k last whole
  have hstart : start.Sound := .initial window listener
  have huncut : start.dispatcher.attached = true := rfl
  have hsound : k.Sound := sound_run hstart turns
  have hwhole : whole = wholeLog turns start := Effect.callbacks_append _ _
  rcases cuts_run turns start with ⟨hclosed, hattached⟩
  refine ⟨⟨?_, ?_⟩, ⟨hsound.balanced, ?_, ?_⟩, ?_, ?_, ⟨?_, ?_⟩, ?_, warnings_drop k⟩
  · rw [hwhole, begun_wholeLog]
    refine List.Nodup.of_map SessionId.number ?_
    rw [(numbers_run turns start).1]
    exact List.nodup_range' 1
  · rw [hwhole]
    exact fun s => endsOnce_of_begun hstart turns
  · intro n c held
    rw [hsound.balanced]
    exact live_pos held
  · simp only [last, run_drop, hsound.balanced, Nat.sub_self]
  · intro n c held
    refine ⟨hsound.numbered n c held, fun later => ?_⟩
    have hn : n < k.dispatcher.ledger.opened := by
      rw [← hsound.counted]
      exact lt_of_held? held
    refine ⟨?_, ?_⟩
    · simpa [held] using (heard_run hsound hn later).1
    · rw [Effect.callbacks_append]
      exact heard_wholeLog hsound held later
  · intro c proper kind request hasks
    exact run_asking hasks hsound
  · exact hattached
  · simpa [huncut] using hclosed
  · intro t
    have hleaks := (moves t k).leaks hsound
    simp only [Effect.mem_warnings, hsound.balanced, ← Nat.pos_iff_ne_zero]
    exact hleaks

end Keeper
end WindowRelay

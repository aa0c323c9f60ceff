import Mathlib.Data.List.Nodup
import Mathlib.Logic.Function.Basic
import WindowRelay.Callback

/-!
# Book — the sessions that a log of callbacks tells of

A log of callbacks is read like an account: a session is entered when the listener opens it, and
struck off by its terminal callback.  This file defines:

* `begun`, `ended`, `unfinished` — the sessions of a log;
* `EndsOnce s log` — in `log`, the session `s` has one terminal callback and nothing after it;
* `Book.Follows` — a log in which every callback is in order, read from one book to another.

The link between the two views is `Book.Account`, which holds after every callback in order.
-/

namespace WindowRelay

/-- A session, named by its kind and its number among all sessions of its window. -/
structure SessionId where
  kind : SessionKind
  number : Nat
  deriving DecidableEq, Repr

namespace Callback

variable {K : Type}

/-- The session that a callback opens. -/
def opens? : Callback K → Option SessionId
  | .beginDrag n _ _ => some ⟨.drag, n⟩
  | .beginScroll n _ => some ⟨.scroll, n⟩
  | _ => none

/-- The open session that a callback is made on. -/
def target? : Callback K → Option SessionId
  | .drag n _ => some ⟨.drag, n⟩
  | .scroll n _ => some ⟨.scroll, n⟩
  | _ => none

/-- The session that a callback ends. -/
def ends? (c : Callback K) : Option SessionId :=
  if c.isTerminal then c.target? else none

theorem target?_of_opens? {c : Callback K} {s : SessionId} (h : c.opens? = some s) :
    c.target? = none := by
  cases c <;> simp [opens?] at h <;> rfl

theorem opens?_of_target? {c : Callback K} {s : SessionId} (h : c.target? = some s) :
    c.opens? = none := by
  cases c <;> simp [target?] at h <;> rfl

theorem target?_of_ends? {c : Callback K} {s : SessionId} (h : c.ends? = some s) :
    c.target? = some s := by
  unfold ends? at h
  split at h
  · exact h
  · cases h

theorem ends?_of_target? {c : Callback K} (h : c.target? = none) : c.ends? = none := by
  simp [ends?, h]

end Callback

/-! ## The sessions of a log -/

section Logs

variable {K : Type}

def begun (log : List (Callback K)) : List SessionId :=
  log.filterMap Callback.opens?

def ended (log : List (Callback K)) : List SessionId :=
  log.filterMap Callback.ends?

/-- The sessions that began and did not end, in the order of beginning. -/
def unfinished (log : List (Callback K)) : List SessionId :=
  (begun log).filter fun s => decide (s ∉ ended log)

/-- The drag that began and did not end. -/
def openDrag? (log : List (Callback K)) : Option SessionId :=
  (unfinished log).find? fun s => decide (s.kind = .drag)

/-- The log has a terminal callback of the session, no other before it, and no callback of the
session after it. -/
def EndsOnce (s : SessionId) (log : List (Callback K)) : Prop :=
  ∃ before last after, log = before ++ last :: after ∧ last.ends? = some s ∧
    (∀ c ∈ before, c.ends? ≠ some s) ∧ ∀ c ∈ after, c.target? ≠ some s

@[simp]
theorem mem_unfinished {log : List (Callback K)} {s : SessionId} :
    s ∈ unfinished log ↔ s ∈ begun log ∧ s ∉ ended log := by
  simp [unfinished]

theorem begun_append (log log' : List (Callback K)) :
    begun (log ++ log') = begun log ++ begun log' :=
  List.filterMap_append

theorem mem_ended {log : List (Callback K)} {s : SessionId} :
    s ∈ ended log ↔ ∃ c ∈ log, c.ends? = some s :=
  List.mem_filterMap

end Logs

/-! ## Books -/

/-- How many sessions there were, and the number of the open one of each kind. -/
structure Book where
  opened : Nat
  current : SessionKind → Option Nat

namespace Book

variable {K : Type} {b b' b'' : Book} {c : Callback K} {log log' : List (Callback K)}

def blank : Book :=
  ⟨0, fun _ => none⟩

def enter (b : Book) (s : SessionId) : Book :=
  ⟨b.opened + 1, Function.update b.current s.kind (some s.number)⟩

def leave (b : Book) (s : SessionId) : Book :=
  { b with current := Function.update b.current s.kind none }

/-- The open sessions. -/
def sessions (b : Book) : List SessionId :=
  (b.current .drag).toList.map (SessionId.mk .drag) ++
    (b.current .scroll).toList.map (SessionId.mk .scroll)

@[simp]
theorem mem_sessions {s : SessionId} : s ∈ b.sessions ↔ b.current s.kind = some s.number := by
  rcases s with ⟨kind, number⟩
  cases kind <;> simp [sessions]

/-- A callback is in order when it opens the next session of a kind of which none is open, or is
made on an open session.  Motion is told to the listener itself only while no drag is open. -/
inductive Reads (b : Book) (c : Callback K) : Book → Prop
  | opening {s : SessionId} (opens : c.opens? = some s) (fresh : s.number = b.opened)
      (vacant : b.current s.kind = none) : Reads b c (b.enter s)
  | calling {s : SessionId} (calls : c.target? = some s) (lasts : c.isTerminal = false)
      (isOpen : b.current s.kind = some s.number) : Reads b c b
  | ending {s : SessionId} (ends : c.ends? = some s)
      (isOpen : b.current s.kind = some s.number) : Reads b c (b.leave s)
  | other (opens : c.opens? = none) (calls : c.target? = none)
      (motion : ∀ p, c = .mouseMotion p → b.current .drag = none) : Reads b c b

inductive Follows : Book → List (Callback K) → Book → Prop
  | nil (b : Book) : Follows b [] b
  | cons {b b' b'' : Book} {c : Callback K} {log : List (Callback K)} (first : b.Reads c b')
      (rest : Follows b' log b'') : Follows b (c :: log) b''

namespace Follows

theorem append (h : Follows b log b') (h' : Follows b' log' b'') :
    Follows b (log ++ log') b'' := by
  induction h with
  | nil b =>
      exact h'
  | cons first _ ih =>
      exact .cons first (ih h')

theorem single (h : b.Reads c b') : Follows b [c] b' :=
  .cons h (.nil b')

/-- A log in order can be read up to any of its callbacks. -/
theorem split (h : Follows b (log ++ c :: log') b'') :
    ∃ b₁ b₂, Follows b log b₁ ∧ b₁.Reads c b₂ ∧ Follows b₂ log' b'' := by
  induction log generalizing b with
  | nil =>
      cases h with
      | cons first rest => exact ⟨b, _, .nil b, first, rest⟩
  | cons d log ih =>
      cases h with
      | cons first rest =>
          rcases ih rest with ⟨b₁, b₂, hlog, hreads, hrest⟩
          exact ⟨b₁, b₂, .cons first hlog, hreads, hrest⟩

end Follows

/-! ## Sessions that are not open -/

theorem Reads.target?_ne {s : SessionId} (h : b.Reads c b')
    (hclosed : b.current s.kind ≠ some s.number) : c.target? ≠ some s := by
  intro hc
  cases h with
  | opening opens fresh vacant =>
      simp [Callback.target?_of_opens? opens] at hc
  | calling calls lasts isOpen =>
      rw [calls] at hc
      cases hc
      exact hclosed isOpen
  | ending ends isOpen =>
      rw [Callback.target?_of_ends? ends] at hc
      cases hc
      exact hclosed isOpen
  | other opens calls motion =>
      simp [calls] at hc

/-- A session is entered under a number that was never used, so an old one is not entered again. -/
theorem Reads.stays_closed {s : SessionId} (h : b.Reads c b')
    (hclosed : b.current s.kind ≠ some s.number) (hold : s.number < b.opened) :
    b'.current s.kind ≠ some s.number ∧ s.number < b'.opened := by
  cases h with
  | @opening s' opens fresh vacant =>
      refine ⟨?_, Nat.lt_succ_of_lt hold⟩
      have hother : s'.number ≠ s.number := by
        omega
      by_cases hkind : s.kind = s'.kind
      · simpa [enter, hkind] using hother
      · simpa [enter, Function.update_of_ne hkind] using hclosed
  | calling calls lasts isOpen =>
      exact ⟨hclosed, hold⟩
  | @ending s' ends isOpen =>
      refine ⟨?_, hold⟩
      by_cases hkind : s.kind = s'.kind
      · simp [leave, hkind]
      · simpa [leave, Function.update_of_ne hkind] using hclosed
  | other opens calls motion =>
      exact ⟨hclosed, hold⟩

theorem Follows.stays_closed {s : SessionId} (h : Follows b log b')
    (hclosed : b.current s.kind ≠ some s.number) (hold : s.number < b.opened) :
    b'.current s.kind ≠ some s.number ∧ s.number < b'.opened := by
  induction h with
  | nil b =>
      exact ⟨hclosed, hold⟩
  | cons first _ ih =>
      have hnext := first.stays_closed hclosed hold
      exact ih hnext.1 hnext.2

/-- A session that was struck off, or never entered, stays out of the log. -/
theorem Follows.silent {s : SessionId} (h : Follows b log b')
    (hclosed : b.current s.kind ≠ some s.number) (hold : s.number < b.opened) :
    ∀ c ∈ log, c.target? ≠ some s := by
  induction h with
  | nil b =>
      simp
  | cons first _ ih =>
      have hnext := first.stays_closed hclosed hold
      intro d hd
      rcases List.mem_cons.1 hd with rfl | hd
      · exact first.target?_ne hclosed
      · exact ih hnext.1 hnext.2 d hd

/-- A terminal callback strikes an open session off. -/
theorem Reads.of_ends {s : SessionId} (h : b.Reads c b') (hends : c.ends? = some s) :
    b.current s.kind = some s.number ∧ b' = b.leave s := by
  cases h with
  | opening opens fresh vacant =>
      simp [Callback.ends?_of_target? (Callback.target?_of_opens? opens)] at hends
  | calling calls lasts isOpen =>
      simp [Callback.ends?, lasts] at hends
  | ending ends isOpen =>
      rw [hends] at ends
      cases ends
      exact ⟨isOpen, rfl⟩
  | other opens calls motion =>
      simp [Callback.ends?_of_target? calls] at hends

/-! ## What a book knows of the log it was read from -/

/-- Sessions are numbered from `first` on in the order of beginning, whatever their kind, and those
that are open in the book are those that began and did not end. -/
structure Account (first : Nat) (log : List (Callback K)) (b : Book) : Prop where
  numbers : (begun log).map SessionId.number = List.range' first (begun log).length
  count : b.opened = first + (begun log).length
  ended_begun : ∀ s ∈ ended log, s ∈ begun log
  open_iff : ∀ s : SessionId, b.current s.kind = some s.number ↔ s ∈ begun log ∧ s ∉ ended log

namespace Account

variable {first : Nat}

theorem nil (first : Nat) : Account first ([] : List (Callback K)) ⟨first, fun _ => none⟩ where
  numbers := rfl
  count := rfl
  ended_begun := by
    simp [ended]
  open_iff := by
    simp [begun]

theorem number_mem {s : SessionId} (h : Account first log b) (hs : s ∈ begun log) :
    first ≤ s.number ∧ s.number < b.opened := by
  have hnumber : s.number ∈ (begun log).map SessionId.number := List.mem_map_of_mem hs
  rw [h.numbers, List.mem_range'_1, ← h.count] at hnumber
  exact hnumber

theorem number_lt {s : SessionId} (h : Account first log b) (hs : s ∈ begun log) :
    s.number < b.opened :=
  (h.number_mem hs).2

/-- Later sessions have greater numbers. -/
theorem ordered (h : Account first log b) :
    (begun log).Pairwise fun s s' => s.number < s'.number := by
  have hnumbers : ((begun log).map SessionId.number).Pairwise (· < ·) := by
    rw [h.numbers]
    exact List.pairwise_lt_range'
  exact List.pairwise_map.1 hnumbers

theorem nodup (h : Account first log b) : (begun log).Nodup :=
  h.ordered.imp fun hlt heq => absurd (congrArg SessionId.number heq) (Nat.ne_of_lt hlt)

theorem opening {s : SessionId} (h : Account first log b) (opens : c.opens? = some s)
    (fresh : s.number = b.opened) (vacant : b.current s.kind = none) :
    Account first (log ++ [c]) (b.enter s) := by
  have hbegun : begun (log ++ [c]) = begun log ++ [s] := by
    simp [begun, opens]
  have hended : ended (log ++ [c]) = ended log := by
    simp [ended, Callback.ends?_of_target? (Callback.target?_of_opens? opens)]
  -- The number of the new session is beyond those of all sessions before.
  have hnew : s ∉ ended log := by
    intro hs
    have hlt := h.number_lt (h.ended_begun s hs)
    omega
  refine ⟨?_, ?_, ?_, ?_⟩
  · have hnumber : s.number = first + (begun log).length := fresh.trans h.count
    simp [hbegun, h.numbers, List.range'_concat, hnumber]
  · simp [hbegun, enter, h.count, Nat.add_assoc]
  · intro t ht
    rw [hended] at ht
    rw [hbegun]
    exact List.mem_append_left _ (h.ended_begun t ht)
  · intro t
    rw [hbegun, hended]
    by_cases hkind : t.kind = s.kind
    · -- No session of this kind was open, so the new one is the only one that is.
      have hold : ¬ (t ∈ begun log ∧ t ∉ ended log) := by
        intro ht
        have := (h.open_iff t).2 ht
        rw [hkind, vacant] at this
        cases this
      have hsame : s.number = t.number ↔ t = s := by
        constructor
        · intro hnumber
          cases s
          cases t
          simp_all
        · rintro rfl
          rfl
      simp only [enter, hkind, Function.update_self, Option.some.injEq, hsame, List.mem_append,
        List.mem_singleton]
      constructor
      · rintro rfl
        exact ⟨.inr rfl, hnew⟩
      · rintro ⟨ht | ht, hlast⟩
        · exact absurd ⟨ht, hlast⟩ hold
        · exact ht
    · have hother : t ≠ s := by
        rintro rfl
        exact hkind rfl
      simpa [enter, Function.update_of_ne hkind, hother] using h.open_iff t

theorem ending {s : SessionId} (h : Account first log b) (ends : c.ends? = some s)
    (isOpen : b.current s.kind = some s.number) : Account first (log ++ [c]) (b.leave s) := by
  have hbegun : begun (log ++ [c]) = begun log := by
    simp [begun, Callback.opens?_of_target? (Callback.target?_of_ends? ends)]
  have hended : ended (log ++ [c]) = ended log ++ [s] := by
    simp [ended, ends]
  refine ⟨?_, ?_, ?_, ?_⟩
  · rw [hbegun]
    exact h.numbers
  · rw [hbegun]
    exact h.count
  · intro t ht
    rw [hended] at ht
    rw [hbegun]
    rcases List.mem_append.1 ht with ht | ht
    · exact h.ended_begun t ht
    · rw [List.mem_singleton.1 ht]
      exact ((h.open_iff s).1 isOpen).1
  · intro t
    rw [hbegun, hended]
    by_cases hkind : t.kind = s.kind
    · -- The session struck off was the only open one of its kind.
      have hunique : t ∈ begun log → t ∉ ended log → t = s := by
        intro hbegan hlasts
        have ht := (h.open_iff t).2 ⟨hbegan, hlasts⟩
        rw [hkind, isOpen] at ht
        cases s
        cases t
        simp_all
      simp only [leave, hkind, Function.update_self, reduceCtorEq, false_iff, List.mem_append,
        List.mem_singleton, not_or, not_and, not_not]
      exact hunique
    · have hother : t ≠ s := by
        rintro rfl
        exact hkind rfl
      simpa [leave, Function.update_of_ne hkind, hother] using h.open_iff t

theorem snoc (h : Account first log b) (hc : b.Reads c b') : Account first (log ++ [c]) b' := by
  -- A callback that opens and ends nothing changes neither list of sessions.
  have hsilent : c.opens? = none → c.ends? = none → Account first (log ++ [c]) b := by
    intro opens ends
    have hbegun : begun (log ++ [c]) = begun log := by
      simp [begun, opens]
    have hended : ended (log ++ [c]) = ended log := by
      simp [ended, ends]
    exact ⟨by rw [hbegun, h.numbers], by rw [hbegun, h.count],
      by rw [hbegun, hended]; exact h.ended_begun, by rw [hbegun, hended]; exact h.open_iff⟩
  cases hc with
  | opening opens fresh vacant =>
      exact h.opening opens fresh vacant
  | calling calls lasts isOpen =>
      exact hsilent (Callback.opens?_of_target? calls) (by simp [Callback.ends?, lasts])
  | ending ends isOpen =>
      exact h.ending ends isOpen
  | other opens calls motion =>
      exact hsilent opens (Callback.ends?_of_target? calls)

theorem append (h : Account first log b) (h' : Follows b log' b') :
    Account first (log ++ log') b' := by
  induction h' generalizing log with
  | nil b =>
      simpa using h
  | cons first _ ih =>
      simpa using ih (h.snoc first)

/-- The account of a log that was read from the beginning. -/
theorem of_follows (h : Follows blank log b) : Account 0 log b :=
  (nil 0).append h

/-! ### What is open -/

theorem unfinished_perm (h : Account first log b) : (unfinished log).Perm b.sessions := by
  have hsessions : b.sessions.Nodup := by
    cases hdrag : b.current .drag <;> cases hscroll : b.current .scroll <;>
      simp [sessions, hdrag, hscroll]
  -- Neither list repeats a session, so it is enough that they have the same members.
  refine (List.perm_ext_iff_of_nodup (h.nodup.filter _) hsessions).2 ?_
  intro s
  rw [mem_sessions, h.open_iff s]
  exact mem_unfinished

theorem openDrag?_eq (h : Account first log b) :
    openDrag? log = (b.current .drag).map (SessionId.mk .drag) := by
  cases hfound : openDrag? log with
  | none =>
      cases hdrag : b.current .drag with
      | none => rfl
      | some n =>
          have hopen : (⟨.drag, n⟩ : SessionId) ∈ unfinished log :=
            mem_unfinished.2 ((h.open_iff ⟨.drag, n⟩).1 hdrag)
          simpa using List.find?_eq_none.1 hfound _ hopen
  | some s =>
      have hkind : s.kind = .drag := by
        simpa using List.find?_some hfound
      have hopen := (h.open_iff s).2 (mem_unfinished.1 (List.mem_of_find?_eq_some hfound))
      rw [hkind] at hopen
      rw [hopen, Option.map_some, ← hkind]

/-- A session that began and is not open any more ended once, and is silent since. -/
theorem endsOnce {s : SessionId} (h : Follows blank log b) (hs : s ∈ begun log)
    (hclosed : b.current s.kind ≠ some s.number) : EndsOnce s log := by
  -- The session is not open at the end, so there is a terminal callback to split the log at.
  have hended : s ∈ ended log := by
    by_contra hlasts
    exact hclosed (((of_follows h).open_iff s).2 ⟨hs, hlasts⟩)
  rcases mem_ended.1 hended with ⟨last, hlast, ends⟩
  rcases List.append_of_mem hlast with ⟨before, after, rfl⟩
  rcases h.split with ⟨b₁, b₂, hbefore, hreads, hafter⟩
  rcases hreads.of_ends ends with ⟨isOpen, rfl⟩
  -- It was open when that callback was made: it had not ended before, and nothing follows.
  have hopen := ((of_follows hbefore).open_iff s).1 isOpen
  refine ⟨before, last, after, rfl, ends, ?_, ?_⟩
  · intro c hc hends
    exact hopen.2 (mem_ended.2 ⟨c, hc, hends⟩)
  · refine hafter.silent ?_ ((of_follows hbefore).number_lt hopen.1)
    simp [leave]

end Account

end Book

end WindowRelay

import WindowRelay.Proofs.Gesture.Course
import WindowRelay.Proofs.Gesture.Latest

/-!
# Naming — how the tokens of an arbiter follow the sessions of its log

An arbiter numbers sessions and gestures by two counters, the ledger of its dispatcher and its own.
They are counted in step, so the token of a gesture can be told from the number of its session, and
the state of a kind from the callbacks that were made.

- `Arbiter.Aligned`: tokens and session numbers are counted in step.
- `Arbiter.Move.turns`: a move turns the states as its callbacks do.
- `Arbiter.Known`: what a log tells of the arbiter that made its callbacks.
-/

namespace WindowRelay
namespace Arbiter

variable {K : Type} {a b : Arbiter K} {es : List (Effect K)} {first : Nat}

/-! ## Tokens and numbers -/

/-- The token and the number of the open session of a kind. -/
def named? (a : Arbiter K) : SessionKind → Option (GestureToken × Nat)
  | .drag => a.drag.session.map fun s => (s.token, s.capability.session)
  | .scroll => a.scroll.session.map fun s => (s.token, s.capability.session)

theorem owner_eq_transient_iff {kind : SessionKind} {t : GestureToken} :
    a.owner kind = .transient t ↔ ∃ n, a.named? kind = some (t, n) := by
  cases kind with
  | drag => cases hsession : a.drag.session <;> simp [owner, named?, hsession]
  | scroll => cases hsession : a.scroll.session <;> simp [owner, named?, hsession]

theorem current_eq (a : Arbiter K) (kind : SessionKind) :
    a.book.current kind = (a.named? kind).map Prod.snd := by
  cases kind with
  | drag => cases hsession : a.drag.session <;> simp [book, session?, named?, hsession]
  | scroll => cases hsession : a.scroll.session <;> simp [book, session?, named?, hsession]

/-- The token of a session, where the session with the number `first` has the first token. -/
def tokenFrom (first : Nat) (s : SessionId) : GestureToken :=
  ⟨s.number + 1 - first⟩

/-- Tokens and session numbers are counted in step. -/
structure Aligned (first : Nat) (a : Arbiter K) : Prop where
  next : a.dispatcher.ledger.opened = first + a.lastToken
  drag : ∀ s, a.drag.session = some s →
    s.token = tokenFrom first ⟨.drag, s.capability.session⟩
  scroll : ∀ s, a.scroll.session = some s →
    s.token = tokenFrom first ⟨.scroll, s.capability.session⟩

namespace Aligned

theorem initial (d : Dispatcher K) : (ofDispatcher d).Aligned d.ledger.opened where
  next := rfl
  drag s hs := by cases hs
  scroll s hs := by cases hs

/-- The next session gets the next token. -/
theorem token (h : a.Aligned first) (kind : SessionKind) :
    a.token = tokenFrom first ⟨kind, a.dispatcher.ledger.opened⟩ := by
  have hnumber : a.dispatcher.ledger.opened + 1 - first = a.lastToken + 1 := by
    have hnext := h.next
    omega
  simp [tokenFrom, Arbiter.token, hnumber]

theorem named (h : a.Aligned first) {kind : SessionKind} {t : GestureToken} {n : Nat}
    (hn : a.named? kind = some (t, n)) : t = tokenFrom first ⟨kind, n⟩ := by
  cases kind with
  | drag =>
      rcases Option.map_eq_some_iff.1 hn with ⟨s, hs, hsame⟩
      cases hsame
      exact h.drag s hs
  | scroll =>
      rcases Option.map_eq_some_iff.1 hn with ⟨s, hs, hsame⟩
      cases hsame
      exact h.scroll s hs

theorem enterDrag (h : a.Aligned first) (buttons : ButtonSet) :
    ({ a.enter with drag := Slot.install ⟨a.token, a.capability .drag, buttons⟩ a.token } :
      Arbiter K).Aligned first where
  next := congrArg (· + 1) h.next
  drag s hs := by
    cases hs
    exact h.token .drag
  scroll := h.scroll

theorem enterScroll (h : a.Aligned first) :
    ({ a.enter with
        scroll := Slot.install ⟨a.token, a.capability .scroll, .tracking, none⟩ a.token } :
      Arbiter K).Aligned first where
  next := congrArg (· + 1) h.next
  drag := h.drag
  scroll s hs := by
    cases hs
    exact h.token .scroll

theorem withDrag (h : a.Aligned first) {s s' : DragSession} (isOpen : a.drag.session = some s)
    (htoken : s'.token = s.token) (hcapability : s'.capability = s.capability) :
    (a.withDrag s').Aligned first where
  next := h.next
  drag t ht := by
    cases ht
    simpa [htoken, hcapability] using h.drag s isOpen
  scroll := h.scroll

theorem withScroll (h : a.Aligned first) {s s' : ScrollSession}
    (isOpen : a.scroll.session = some s) (htoken : s'.token = s.token)
    (hcapability : s'.capability = s.capability) : (a.withScroll s').Aligned first where
  next := h.next
  drag := h.drag
  scroll t ht := by
    cases ht
    simpa [htoken, hcapability] using h.scroll s isOpen

theorem leaveDrag (h : a.Aligned first) (how : Ending) (t : GestureToken) :
    ({ a.leave with drag := Slot.ended how t } : Arbiter K).Aligned first where
  next := h.next
  drag s hs := by cases hs
  scroll := h.scroll

theorem leaveScroll (h : a.Aligned first) (how : Ending) (t : GestureToken) :
    ({ a.leave with scroll := Slot.ended how t } : Arbiter K).Aligned first where
  next := h.next
  drag := h.drag
  scroll s hs := by cases hs

end Aligned

theorem Move.aligned (h : Move a es b) (ha : a.Aligned first) : b.Aligned first := by
  cases h with
  | beginDrag p button attached idle => exact ha.enterDrag _
  | mouseDown p button isOpen fresh => exact ha.withDrag isOpen rfl rfl
  | mouseUp p button isOpen held more => exact ha.withDrag isOpen rfl rfl
  | lastUp p button isOpen held last => exact ha.leaveDrag _ _
  | cancelDrag isOpen => exact ha.leaveDrag _ _
  | beginScroll p attached idle => exact ha.enterScroll
  | scrollMotion precise d v t isOpen moving => exact ha.withScroll isOpen rfl rfl
  | lift isOpen tracking => exact ha.withScroll isOpen rfl rfl
  | momentum isOpen lifted => exact ha.withScroll isOpen rfl rfl
  | releaseScroll isOpen => exact ha.leaveScroll _ _
  | cancelScroll isOpen => exact ha.leaveScroll _ _
  | _ => exact ⟨ha.next, ha.drag, ha.scroll⟩

/-! ## States and callbacks -/

/-- A move turns the states as its callbacks do. -/
theorem Move.turns (h : Move a es b) (ha : a.Aligned first) (kind : SessionKind) :
    b.state kind =
      (Effect.callbacks es).foldl (Callback.turns (tokenFrom first) kind) (a.state kind) := by
  cases h with
  | tell c plain attached =>
      cases c <;> first | rfl | cases plain
  | edit l es attached asides =>
      rw [Effect.callbacks_of_asides asides]
      rfl
  | beginDrag p button attached idle =>
      cases kind with
      | drag => exact congrArg GestureState.active (ha.token .drag)
      | scroll => rfl
  | beginScroll p attached idle =>
      cases kind with
      | drag => rfl
      | scroll => exact congrArg GestureState.active (ha.token .scroll)
  | @lastUp s p button isOpen held last =>
      cases kind with
      | drag => exact congrArg (GestureState.ended .release) (ha.drag s isOpen)
      | scroll => rfl
  | @cancelDrag s isOpen =>
      cases kind with
      | drag => exact congrArg (GestureState.ended .cancel) (ha.drag s isOpen)
      | scroll => rfl
  | @releaseScroll s isOpen =>
      cases kind with
      | drag => rfl
      | scroll => exact congrArg (GestureState.ended .release) (ha.scroll s isOpen)
  | @cancelScroll s isOpen =>
      cases kind with
      | drag => rfl
      | scroll => exact congrArg (GestureState.ended .cancel) (ha.scroll s isOpen)
  | cut attached noDrag noScroll =>
      have hwords := congrArg (List.foldl (Callback.turns (tokenFrom first) kind) (a.state kind))
        (callbacks_lastWords a)
      exact hwords.symm
  | _ =>
      -- The session goes on, and so does the state of its kind.
      cases kind <;> rfl

theorem Course.aligned (h : Course a es b) (ha : a.Aligned first) : b.Aligned first := by
  induction h with
  | nil a =>
      exact ha
  | move first _ ih =>
      exact ih (first.aligned ha)
  | cut attached _ ih =>
      exact ih ⟨ha.next, ha.drag, ha.scroll⟩

theorem Course.turns (h : Course a es b) (ha : a.Aligned first) (kind : SessionKind) :
    b.state kind =
      (Effect.callbacks es).foldl (Callback.turns (tokenFrom first) kind) (a.state kind) := by
  induction h with
  | nil a =>
      rfl
  | move first _ ih =>
      rw [Effect.callbacks_append, List.foldl_append, ← first.turns ha kind]
      exact ih (first.aligned ha)
  | @cut a c fs attached _ ih =>
      have hcut : a.cutLine.Aligned first := ⟨ha.next, ha.drag, ha.scroll⟩
      rw [Effect.callbacks_append, callbacks_lastWords]
      exact ih hcut

/-! ## What is known of an arbiter -/

/-- The log tells of the sessions and the states of the arbiter. -/
structure Known (first : Nat) (log : List (Callback K)) (a : Arbiter K) : Prop where
  account : Book.Account first log a.book
  aligned : a.Aligned first
  told : ∀ kind, Told (tokenFrom first) kind log a.book (a.state kind)

namespace Known

variable {log : List (Callback K)}

theorem initial (d : Dispatcher K) : Known d.ledger.opened [] (ofDispatcher d) where
  account := by
    have hbook : (ofDispatcher d).book = ⟨d.ledger.opened, fun _ => none⟩ := book_eq rfl rfl rfl
    rw [hbook]
    exact .nil _
  aligned := .initial d
  told kind := by
    cases kind with
    | drag => exact .idle rfl rfl
    | scroll => exact .idle rfl rfl

theorem course (h : Known first log a) (hcourse : Course a es b) :
    Known first (log ++ Effect.callbacks es) b where
  account := h.account.append hcourse.follows
  aligned := hcourse.aligned h.aligned
  told kind := by
    rw [hcourse.turns h.aligned kind]
    exact (h.told kind).follow h.account hcourse.follows

theorem replay [Scalar K] (d : Dispatcher K) (calls : List (Call K)) :
    let run := (Action.replay step calls).run (ofDispatcher d)
    Known d.ledger.opened (Effect.callbacks run.effects) run.state :=
  (initial d).course (course_replay calls (ofDispatcher d))

/-- The counter has handed out one token for each session. -/
theorem lastToken (h : Known first log a) : a.lastToken = (begun log).length := by
  have hopened : a.dispatcher.ledger.opened = first + (begun log).length := h.account.count
  have hnext := h.aligned.next
  omega

/-- The owner of a kind is the open session of that kind. -/
theorem owner_iff (h : Known first log a) {kind : SessionKind} {t : GestureToken} :
    a.owner kind = .transient t ↔ ∃ s : SessionId, s.kind = kind ∧ tokenFrom first s = t ∧
      a.book.current kind = some s.number := by
  constructor
  · intro howner
    rcases owner_eq_transient_iff.1 howner with ⟨n, hn⟩
    exact ⟨⟨kind, n⟩, rfl, (h.aligned.named hn).symm, by simp [current_eq, hn]⟩
  · rintro ⟨⟨kind, n⟩, rfl, rfl, hcurrent⟩
    rw [current_eq] at hcurrent
    rcases Option.map_eq_some_iff.1 hcurrent with ⟨⟨t, n⟩, hn, rfl⟩
    exact owner_eq_transient_iff.2 ⟨n, by rw [hn, h.aligned.named hn]⟩

/-- The owner of a kind is the session of that kind that began and did not end. -/
theorem owner_iff_unfinished (h : Known first log a) {kind : SessionKind} {t : GestureToken} :
    a.owner kind = .transient t ↔ ∃ s ∈ unfinished log, s.kind = kind ∧ tokenFrom first s = t := by
  refine h.owner_iff.trans ?_
  constructor
  · rintro ⟨s, hkind, htoken, hcurrent⟩
    refine ⟨s, mem_unfinished.2 ((h.account.open_iff s).1 ?_), hkind, htoken⟩
    rw [hkind, hcurrent]
  · rintro ⟨s, hopen, hkind, htoken⟩
    refine ⟨s, hkind, htoken, ?_⟩
    rw [← hkind]
    exact (h.account.open_iff s).2 (mem_unfinished.1 hopen)

end Known

end Arbiter
end WindowRelay

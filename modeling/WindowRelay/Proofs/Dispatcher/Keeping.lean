import WindowRelay.Dispatcher.Keeper
import WindowRelay.Proofs.Dispatcher.Telling
import WindowRelay.Proofs.Gesture.Book
import WindowRelay.Proofs.Gesture.Playing

/-!
# Keeping — what can happen to capabilities held by hand

A dispatcher can be used without an arbiter.  Whoever asks it for a session keeps the capability, and
there may be any number of them, used in any order, before and after the line to the listener is cut.

- `Held.hears`: what a session hears when its capability is used.
- `Keeper.Turn`, `Keeper.turn`: the calls, and the changes of mind of the listener.
- `Keeper.Move`: what a turn can do, one case for each kind of turn.
-/

namespace WindowRelay

/-! ## Kinds of effects -/

/-- Callbacks on the listener itself that open no session.  The farewell is not among them. -/
def Callback.isNotice {K : Type} : Callback K → Bool
  | .closed | .beginDrag _ _ _ | .beginScroll _ _ | .drag _ _ | .scroll _ _ => false
  | _ => true

namespace Effect

variable {K : Type} {e : Effect K}

def isNotice : Effect K → Bool
  | .callback c => c.isNotice
  | .access _ => true
  | .warning w => !w.isLeak

theorem cutsLine_of_isNotice (h : e.isNotice = true) : e.cutsLine = false := by
  unfold cutsLine
  split
  · cases h
  · rfl

theorem isNotice_of_isAside (h : e.isAside = true) : e.isNotice = true := by
  cases e with
  | callback c => cases h
  | access a => rfl
  | warning w => exact h

end Effect

/-! ## Capabilities -/

namespace Keeper.Handling

variable {K : Type}

/-- The uses after which a capability is gone. -/
def isTerminal : Handling K → Bool
  | .finish _ | .drop => true
  | _ => false

/-- What is complained about when a capability is used in this way. -/
def complaints : Handling K → List Warning
  | .drop => [.capabilityDropped]
  | _ => []

end Keeper.Handling

namespace Held

variable {K : Type}

/-- The capability of the session of a kind with a number. -/
def ofSession (window : WindowId) (s : SessionId) : Held :=
  match s.kind with
  | .drag => .drag ⟨window, s.number⟩
  | .scroll => .scroll ⟨window, s.number⟩

def session : Held → SessionId
  | .drag c => ⟨.drag, c.session⟩
  | .scroll c => ⟨.scroll, c.session⟩

@[simp]
theorem session_ofSession (window : WindowId) (s : SessionId) : (ofSession window s).session = s := by
  rcases s with ⟨kind, n⟩
  cases kind <;> rfl

/-- What the session hears when its capability is used.  A drop is a cancel to it, and a call of the
other kind of session is not heard. -/
def hears (c : Held) (h : Keeper.Handling K) : List (Callback K) :=
  match c, h with
  | .drag c, .dragMotion p => [.drag c.session (.motion p)]
  | .drag c, .mouseDown p b => [.drag c.session (.mouseDown p b)]
  | .drag c, .mouseUp p b => [.drag c.session (.mouseUp p b)]
  | .drag c, .finish how => [.drag c.session (.ended how)]
  | .drag c, .drop => [.drag c.session (.ended .cancel)]
  | .scroll c, .scrollMotion precise d v => [.scroll c.session (.motion precise d v)]
  | .scroll c, .startMomentum => [.scroll c.session .startMomentum]
  | .scroll c, .finishScroll => [.scroll c.session .finish]
  | .scroll c, .finish how => [.scroll c.session (.ended how)]
  | .scroll c, .drop => [.scroll c.session (.ended .cancel)]
  | _, _ => []

theorem target?_of_hears {c : Held} {h : Keeper.Handling K} :
    ∀ x ∈ c.hears h, x.target? = some c.session := by
  cases c <;> cases h <;> simp [hears, session, Callback.target?]

/-- A session ends by the terminal uses, and by no other. -/
theorem ends?_of_hears {c : Held} {h : Keeper.Handling K} :
    ∀ x ∈ c.hears h, x.ends? = if h.isTerminal then some c.session else none := by
  cases c <;> cases h <;>
    simp [hears, session, Callback.ends?, Callback.isTerminal, Callback.target?,
      Keeper.Handling.isTerminal]

/-- A terminal use makes one callback, which ends the session. -/
theorem hears_of_isTerminal (c : Held) {h : Keeper.Handling K} (hterminal : h.isTerminal = true) :
    ∃ x : Callback K, c.hears h = [x] ∧ x.ends? = some c.session := by
  cases c <;> cases h <;> first | exact ⟨_, rfl, rfl⟩ | cases hterminal

/-- All that the use of a capability causes. -/
def effects (c : Held) (h : Keeper.Handling K) : List (Effect K) :=
  h.complaints.map .warning ++ (c.hears h).map .callback

@[simp]
theorem callbacks_effects (c : Held) (h : Keeper.Handling K) :
    Effect.callbacks (c.effects h) = c.hears h := by
  cases c <;> cases h <;> rfl

@[simp]
theorem warnings_effects (c : Held) (h : Keeper.Handling K) :
    Effect.warnings (c.effects h) = h.complaints := by
  cases c <;> cases h <;> rfl

end Held

namespace Keeper

variable {K : Type} {k k' : Keeper K}

/-! ## States after a turn -/

def hear (l : Listener K) (k : Keeper K) : Keeper K :=
  { k with dispatcher := { k.dispatcher with listener := l } }

def cutLine (k : Keeper K) : Keeper K :=
  { k with dispatcher := { k.dispatcher with attached := false } }

/-- A new session of a kind, and its capability under the next index. -/
def handOut (k : Keeper K) (kind : SessionKind) : Keeper K where
  dispatcher := { k.dispatcher with ledger := k.dispatcher.ledger.enter }
  held := k.held ++ [some (.ofSession k.dispatcher.window ⟨kind, k.dispatcher.ledger.opened⟩)]

/-- The capability under an index is used, and gone if the use is a terminal one. -/
def used (k : Keeper K) (index : Nat) (h : Handling K) : Keeper K :=
  if h.isTerminal then
    { dispatcher := { k.dispatcher with ledger := k.dispatcher.ledger.leave }
      held := k.held.set index none }
  else k

/-- The number of capabilities that are held. -/
def live (k : Keeper K) : Nat :=
  k.held.countP Option.isSome

/-! ## Turns -/

/-- The dispatcher makes no other callbacks by itself than notices. -/
def Call.isProper : Call K → Bool
  | .notify c => c.isNotice
  | _ => true

inductive Turn (K : Type)
  | call (c : Call K) (proper : c.isProper = true)
  | adapt (l : Listener K)

namespace Turn

/-- How a turn uses the capability under an index, if it does. -/
def use? (index : Nat) : Turn K → Option (Handling K)
  | .call (.handle i h) _ => if i = index then some h else none
  | _ => none

/-- The kind of session that a turn asks for, and the callback that opens it under a number. -/
def asks? : Turn K → Option (SessionKind × (Nat → Callback K))
  | .call (.beginDrag p b) _ => some (.drag, fun n => .beginDrag n p b)
  | .call (.beginScroll p) _ => some (.scroll, fun n => .beginScroll n p)
  | _ => none

/-- Whether a turn cuts the line, and if so, whether the listener is told: it hears of the close of
its window, and not of the drop of its dispatcher. -/
def cuts? : Turn K → Option Bool
  | .call .closed _ => some true
  | .call .dropDispatcher _ => some false
  | _ => none

theorem opens?_of_asks? {t : Turn K} {kind : SessionKind} {request : Nat → Callback K}
    (h : t.asks? = some (kind, request)) (n : Nat) : (request n).opens? = some ⟨kind, n⟩ := by
  rcases t with ⟨_ | _, _⟩ | _ <;> cases h <;> rfl

end Turn

def turn : Turn K → Act K (Keeper K) Unit
  | .call c _ => do
      let _ ← step c
      pure ()
  | .adapt l => modify (hear l)

/-! ## Moves -/

/-- What a turn does to a keeper. -/
inductive Move : Keeper K → Turn K → List (Effect K) → Keeper K → Prop
  | notice {k : Keeper K} {t : Turn K} (l : Listener K) (es : List (Effect K))
      (uses : ∀ n, t.use? n = none) (asks : t.asks? = none) (cuts : t.cuts? = none)
      (notices : ∀ e ∈ es, e.isNotice = true) : Move k t es (k.hear l)
  -- The capability is kept under the next index.
  | opening {k : Keeper K} {t : Turn K} {kind : SessionKind} {request : Nat → Callback K}
      (uses : ∀ n, t.use? n = none) (asks : t.asks? = some (kind, request))
      (cuts : t.cuts? = none) (attached : k.dispatcher.attached = true) :
      Move k t [.callback (request k.dispatcher.ledger.opened)] (k.handOut kind)
  -- No session is had, and no farewell said, once the line is cut.
  | refusal {k : Keeper K} {t : Turn K} (uses : ∀ n, t.use? n = none)
      (cut : k.dispatcher.attached = false) : Move k t [] k
  | use {k : Keeper K} {i : Nat} {h : Handling K} {c : Held}
      (proper : (Call.handle i h).isProper = true) (held : k.held? i = some c) :
      Move k (.call (.handle i h) proper) (c.effects h) (k.used i h)
  -- The capability is used up, or was never had.
  | futile {k : Keeper K} {i : Nat} {h : Handling K}
      (proper : (Call.handle i h).isProper = true) (gone : k.held? i = none) :
      Move k (.call (.handle i h) proper) [] k
  | farewell {k : Keeper K} (proper : (Call.closed : Call K).isProper = true)
      (attached : k.dispatcher.attached = true) :
      Move k (.call .closed proper) k.dispatcher.lastWords k.cutLine
  | drop {k : Keeper K} (proper : (Call.dropDispatcher : Call K).isProper = true) :
      Move k (.call .dropDispatcher proper) [] k.cutLine

/-! ### Calls of the dispatcher -/

/-- An operation that at most changes the listener, and makes no callbacks but notices. -/
abbrev Notifies {α : Type} (m : Act K (Dispatcher K) α) : Prop :=
  Dispatcher.Tells (fun e => e.isNotice = true) m

theorem notifies_scroll (e : ScrollEvent K) : Notifies (Dispatcher.scroll e) := by
  unfold Dispatcher.scroll
  cases e.kind with
  | discrete => exact Dispatcher.tells_notify rfl
  | precise => exact Dispatcher.tells_notify rfl
  | momentumStop => exact Dispatcher.tells_notify rfl

theorem moves_of_notifies {α : Type} {t : Turn K} {m : Act K (Dispatcher K) α} (hm : Notifies m)
    (uses : ∀ n, t.use? n = none) (asks : t.asks? = none) (cuts : t.cuts? = none) (k : Keeper K) :
    Move k t ((dispatch m).run k).effects ((dispatch m).run k).state := by
  rcases hm k.dispatcher with ⟨⟨l, hl⟩, hnotices⟩
  have hstate : ((dispatch m).run k).state = k.hear l := by
    simp only [dispatch, Action.run_within, hl]
    rfl
  rw [hstate]
  exact .notice l _ uses asks cuts hnotices

/-! ### Sessions -/

theorem run_beginDrag (p : Point K) (b : MouseButton) (k : Keeper K)
    (h : k.dispatcher.attached = true) :
    (step (.beginDrag p b)).run k =
      ⟨.kept (some k.held.length), k.handOut .drag,
        [.callback (.beginDrag k.dispatcher.ledger.opened p b)]⟩ := by
  simp [step, dispatch, Dispatcher.beginDrag, Dispatcher.openSession, h, keep, handOut,
    Held.ofSession]

theorem run_beginScroll (p : Point K) (k : Keeper K) (h : k.dispatcher.attached = true) :
    (step (.beginScroll p)).run k =
      ⟨.kept (some k.held.length), k.handOut .scroll,
        [.callback (.beginScroll k.dispatcher.ledger.opened p)]⟩ := by
  simp [step, dispatch, Dispatcher.beginScroll, Dispatcher.openSession, h, keep, handOut,
    Held.ofSession]

/-- Once the line is cut, no session is to be had. -/
theorem run_beginDrag_cut (p : Point K) (b : MouseButton) (k : Keeper K)
    (h : k.dispatcher.attached = false) :
    (step (.beginDrag p b)).run k = ⟨.kept none, k, []⟩ := by
  simp [step, dispatch, Dispatcher.beginDrag, Dispatcher.openSession, h, keep]

theorem run_beginScroll_cut (p : Point K) (k : Keeper K) (h : k.dispatcher.attached = false) :
    (step (.beginScroll p)).run k = ⟨.kept none, k, []⟩ := by
  simp [step, dispatch, Dispatcher.beginScroll, Dispatcher.openSession, h, keep]

/-! ### Uses of capabilities -/

theorem run_handle (i : Nat) (c : Held) (h : Handling K) (k : Keeper K) :
    (handle i c h).run k = ⟨(), k.used i h, c.effects h⟩ := by
  cases h <;> cases c <;> rfl

theorem run_use {i : Nat} {c : Held} (h : Handling K) (held : k.held? i = some c) :
    (step (.handle i h)).run k = ⟨.done, k.used i h, c.effects h⟩ := by
  simp [step, held, run_handle]

theorem run_futile {i : Nat} (h : Handling K) (gone : k.held? i = none) :
    (step (.handle i h)).run k = ⟨.done, k, []⟩ := by
  simp [step, gone]

/-! ### The end of the line -/

theorem run_closed_attached (h : k.dispatcher.attached = true) :
    (step .closed).run k = ⟨.done, k.cutLine, k.dispatcher.lastWords⟩ := by
  simp [step, dispatch, Dispatcher.run_closed_attached h, cutLine]

theorem run_closed_cut (h : k.dispatcher.attached = false) :
    (step .closed).run k = ⟨.done, k, []⟩ := by
  simp [step, dispatch, Dispatcher.run_closed_detached h]

theorem run_dropDispatcher (k : Keeper K) :
    (step .dropDispatcher).run k = ⟨.done, k.cutLine, []⟩ :=
  rfl

/-! ### All turns -/

theorem effects_turn (c : Call K) (proper : c.isProper = true) (k : Keeper K) :
    ((turn (.call c proper)).run k).effects = ((step c).run k).effects := by
  simp [turn]

theorem state_turn (c : Call K) (proper : c.isProper = true) (k : Keeper K) :
    ((turn (.call c proper)).run k).state = ((step c).run k).state :=
  rfl

theorem moves (t : Turn K) (k : Keeper K) :
    Move k t ((turn t).run k).effects ((turn t).run k).state := by
  -- Most calls are a question or a piece of news to the listener, with the answer wrapped up.
  have hnotice {α : Type} {c : Call K} {m : Act K (Dispatcher K) α} {reply : α → Reply K}
      (proper : c.isProper = true) (hstep : step c = (dispatch m >>= fun x => pure (reply x)))
      (hm : Notifies m) (uses : ∀ n, (Turn.call c proper).use? n = none)
      (asks : (Turn.call c proper).asks? = none) (cuts : (Turn.call c proper).cuts? = none) :
      Move k (.call c proper) ((turn (.call c proper)).run k).effects
        ((turn (.call c proper)).run k).state := by
    rw [effects_turn, state_turn, hstep]
    simpa using moves_of_notifies hm uses asks cuts k
  cases t with
  | adapt l =>
      exact .notice l [] (fun _ => rfl) rfl rfl (by simp)
  | call c proper =>
      cases c with
      | shouldClose =>
          exact hnotice proper rfl (Dispatcher.tells_shouldClose rfl) (fun _ => rfl) rfl rfl
      | notify c =>
          exact hnotice proper rfl (Dispatcher.tells_notify proper) (fun _ => rfl) rfl rfl
      | hitTest p =>
          exact hnotice proper rfl (Dispatcher.tells_hitTest rfl) (fun _ => rfl) rfl rfl
      | scroll e =>
          exact hnotice proper rfl (notifies_scroll e) (fun _ => rfl) rfl rfl
      | text c =>
          exact hnotice proper rfl
            (Dispatcher.tells_edit (InputMethod.step_asides c) fun _ => Effect.isNotice_of_isAside)
            (fun _ => rfl) rfl rfl
      | closed =>
          rw [effects_turn, state_turn]
          cases hattached : k.dispatcher.attached with
          | true =>
              rw [run_closed_attached hattached]
              exact .farewell proper hattached
          | false =>
              rw [run_closed_cut hattached]
              exact .refusal (fun _ => rfl) hattached
      | beginDrag p b =>
          rw [effects_turn, state_turn]
          cases hattached : k.dispatcher.attached with
          | true =>
              have hasks : (Turn.call (.beginDrag p b) proper).asks? =
                  some (.drag, fun n => .beginDrag n p b) := rfl
              rw [run_beginDrag p b k hattached]
              exact .opening (fun _ => rfl) hasks rfl hattached
          | false =>
              rw [run_beginDrag_cut p b k hattached]
              exact .refusal (fun _ => rfl) hattached
      | beginScroll p =>
          rw [effects_turn, state_turn]
          cases hattached : k.dispatcher.attached with
          | true =>
              have hasks : (Turn.call (.beginScroll p) proper).asks? =
                  some (.scroll, fun n => .beginScroll n p) := rfl
              rw [run_beginScroll p k hattached]
              exact .opening (fun _ => rfl) hasks rfl hattached
          | false =>
              rw [run_beginScroll_cut p k hattached]
              exact .refusal (fun _ => rfl) hattached
      | handle i h =>
          rw [effects_turn, state_turn]
          cases hheld : k.held? i with
          | none =>
              rw [run_futile h hheld]
              exact .futile proper hheld
          | some c =>
              rw [run_use h hheld]
              exact .use proper hheld
      | dropDispatcher =>
          rw [effects_turn, state_turn, run_dropDispatcher]
          exact .drop proper

end Keeper
end WindowRelay

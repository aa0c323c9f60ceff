import WindowRelay.Proofs.Gesture.Lanes
import WindowRelay.Proofs.Relay.ButtonNews

/-!
# Lanes — pointer input and scrolling do not disturb each other

A window whose life is without all scrolling has the same pointer callbacks, the same drag and the
same pressed buttons.  A window whose life is without all pointer input has the same scroll
callbacks, the same scroll gesture and the same answers to its scroll calls, if it is told instead
that something else happened: for that is what settles a lifted gesture.  Only the numbers of the
sessions differ.

- `Relay.Turn.withoutScroll?`, `Relay.Turn.withoutPointer?`: what is left of a turn.
- `Relay.scrollAnswers`: the answers of the scroll calls in a life.
- `Relay.lanes_are_undisturbed`: the two comparisons.
-/

namespace WindowRelay

theorem Effect.lane?_of_isAside {K : Type} {e : Effect K} (h : e.isAside = true) :
    e.lane? = none := by
  cases e with
  | callback c => cases h
  | access a => rfl
  | warning w => rfl

namespace Relay

open Act

variable {K α β : Type} {kind : SessionKind}

/-! ## Sides -/

namespace Call

def isPointerSide : Call K → Bool
  | .pointer _ | .pointerLeft | .captureLost => true
  | _ => false

/-- The calls on scroll gestures that have an answer. -/
def asksScroll : Call K → Bool
  | .beginScrollGesture _ | .scrollGestureMotion _ _ _ | .liftScrollGesture => true
  | .startMomentum | .endScrollGesture | .cancelScrollGesture => true
  | _ => false

def isScrollSide (c : Call K) : Bool :=
  c.asksScroll ||
    match c with
    | .scroll _ | .flushGestures => true
    | _ => false

end Call

namespace Turn

def withoutScroll? : Turn K → Option (Turn K)
  | .call c => if c.isScrollSide then none else some (.call c)
  | .adapt l => some (.adapt l)

/-- Pointer events still settle a lifted scroll gesture. -/
def withoutPointer? : Turn K → Option (Turn K)
  | .call (.pointer _) | .call .pointerLeft => some (.call .flushGestures)
  | .call .captureLost => none
  | t => some t

end Turn

def Reply.renumber (f : Nat → Nat) : Reply K → Reply K
  | .token t => .token (t.map (GestureToken.renumber f))
  | reply => reply

/-! ## Linked windows -/

/-- Linked windows have linked arbiters, and on the scroll side the same phase tracker. -/
def link (kind : SessionKind) : Link (Relay K) where
  rel f r r' :=
    Arbiter.Linked kind f r.arbiter r'.arbiter ∧ r.attributes = r'.attributes ∧
      (kind = .scroll → r.tracker = r'.tracker)
  opened r := r.arbiter.dispatcher.ledger.opened

theorem mirrors_arbitrate {R : (Nat → Nat) → α → β → Prop} {m : Act K (Arbiter K) α}
    {m' : Act K (Arbiter K) β} (h : Mirrors (Arbiter.link kind) kind R m m') :
    Mirrors (link kind) kind R (arbitrate m) (arbitrate m') := by
  rintro f r r' ⟨harbiter, hattributes, htracker⟩
  rcases h f r.arbiter r'.arbiter harbiter with ⟨g, hfg, hle, hrel, hanswer⟩
  exact ⟨g, hfg, hle, ⟨hrel, hattributes, htracker⟩, hanswer⟩

/-- What is apart from a kind of gesture can be left out. -/
theorem mirrors_apart {m : Act K (Arbiter K) α} (h : Arbiter.Apart kind m) (y : β) :
    Mirrors (link kind) kind (Anyway α β) (arbitrate m) (pure y) :=
  mirrors_arbitrate (h.mirrors y)

theorem mirrors_tells {m : Act K (Dispatcher K) α}
    (hm : Dispatcher.Tells (fun e => e.lane? ≠ some kind) m) :
    Mirrors (link kind) kind (Anyway α α) (dispatch m) (dispatch m) :=
  mirrors_arbitrate ((Arbiter.aside_dispatch hm).mirrors (Arbiter.aside_dispatch hm))

theorem mirrors_notify {c : Callback K} (unnumbered : ∀ f, c.renumber f = c) :
    Mirrors (link kind) kind (Anyway Unit Unit) (dispatch (Dispatcher.notify c))
      (dispatch (Dispatcher.notify c)) :=
  mirrors_arbitrate (Arbiter.mirrors_notify unnumbered)

/-- The set of pressed buttons plays no part. -/
theorem mirrors_modify {φ ψ : Relay K → Relay K} (hφ : ∀ r, ∃ m, φ r = { r with pressed := m })
    (hψ : ∀ r, ∃ m, ψ r = { r with pressed := m }) :
    Mirrors (K := K) (link kind) kind (Anyway Unit Unit) (modify φ) (modify ψ) := by
  intro f r r' h
  rcases hφ r with ⟨m, hm⟩
  rcases hψ r' with ⟨n, hn⟩
  unfold MirrorsAt
  rw [Action.run_modify, Action.run_modify, hm, hn]
  exact ⟨f, .refl _ f, Nat.le_refl _, h, fun _ _ => ⟨trivial, rfl⟩⟩

theorem hold_eq (e : PointerEvent K) (r : Relay K) : ∃ m, hold e r = { r with pressed := m } := by
  unfold hold
  split
  · exact ⟨r.pressed, rfl⟩
  · exact ⟨_, rfl⟩

/-- What changes nothing that is linked can be left out. -/
theorem mirrors_nothing {m : Act K (Relay K) α}
    (hrel : ∀ f r r', (link kind).rel f r r' → (link kind).rel f (m.run r).state r')
    (hcalls : ∀ r, laneCalls kind (m.run r).effects = []) (y : β) :
    Mirrors (link kind) kind (Anyway α β) m (pure y) :=
  fun f r r' h =>
    ⟨f, .refl _ f, Nat.le_refl _, hrel f r r' h, fun _ _ => ⟨trivial, hcalls r⟩⟩

theorem mirrors_hold (e : PointerEvent K) (y : β) :
    Mirrors (K := K) (link kind) kind (Anyway Unit β) (modify (hold e)) (pure y) := by
  refine mirrors_nothing (fun f r r' h => ?_) (fun _ => rfl) y
  rcases hold_eq e r with ⟨m, hm⟩
  rw [Action.run_modify, hm]
  exact h

theorem mirrors_warnIf {σ : Type} {link : Link σ} (x y : Bool) (w v : Warning) :
    Mirrors (K := K) link kind (Anyway Unit Unit) (warnIf x w) (warnIf y v) := by
  intro f s s' h
  unfold MirrorsAt
  rw [run_warnIf, run_warnIf]
  refine ⟨f, .refl _ f, Nat.le_refl _, h, fun _ _ => ⟨trivial, ?_⟩⟩
  cases x <;> cases y <;> rfl

/-! ## Calls on neither side -/

theorem mirrors_focus (gained : Bool) :
    Mirrors (K := K) (link kind) kind (Anyway Unit Unit) (focus gained) (focus gained) := by
  cases gained with
  | true =>
      exact mirrors_notify fun _ => rfl
  | false =>
      exact .bind (mirrors_arbitrate (Arbiter.mirrors_cancelAll kind)) fun _ _ _ =>
        .bind (mirrors_modify (fun _ => ⟨_, rfl⟩) fun _ => ⟨_, rfl⟩) fun _ _ _ =>
          mirrors_notify fun _ => rfl

theorem mirrors_close :
    Mirrors (K := K) (link kind) kind (Anyway Unit Unit) close close := by
  have hreset : Mirrors (K := K) (link kind) kind (Anyway Unit Unit)
      (modify fun r : Relay K => { r with tracker := r.tracker.reset })
      (modify fun r : Relay K => { r with tracker := r.tracker.reset }) := by
    rintro f r r' ⟨harbiter, hattributes, htracker⟩
    refine ⟨f, .refl _ f, Nat.le_refl _, ⟨harbiter, hattributes, fun hkind => ?_⟩,
      fun _ _ => ⟨trivial, rfl⟩⟩
    exact congrArg PhaseTracker.reset (htracker hkind)
  exact .bind (mirrors_arbitrate (Arbiter.mirrors_cancelAll kind)) fun _ _ _ =>
    .bind hreset fun _ _ _ =>
      .bind (mirrors_modify (fun _ => ⟨_, rfl⟩) fun _ => ⟨_, rfl⟩) fun _ _ _ =>
        mirrors_arbitrate (Arbiter.mirrors_closed kind)

section Calls

variable [Scalar K] {c : Call K}

theorem mirrors_step (hscroll : c.isScrollSide = false) (hpointer : c.isPointerSide = false) :
    Mirrors (link kind) kind (Anyway (Reply K) (Reply K)) (step c) (step c) := by
  cases c with
  | hitTest p =>
      exact .bind (mirrors_tells (Dispatcher.tells_hitTest nofun)) fun _ _ _ => .done _ _
  | focus gained =>
      exact .bind (mirrors_focus gained) fun _ _ _ => .done _ _
  | closeRequested =>
      exact .bind (mirrors_tells (Dispatcher.tells_shouldClose nofun)) fun _ _ _ => .done _ _
  | close =>
      exact .bind mirrors_close fun _ _ _ => .done _ _
  | resized =>
      exact .bind (mirrors_notify fun _ => rfl) fun _ _ _ => .done _ _
  | scaleFactorChanged =>
      exact .bind (mirrors_notify fun _ => rfl) fun _ _ _ => .done _ _
  | updateReady =>
      exact .bind (mirrors_notify fun _ => rfl) fun _ _ _ => .done _ _
  | hasComposingContext =>
      exact .bind (mirrors_tells Dispatcher.tells_hasEditor) fun _ _ _ => .done _ _
  | text call =>
      have htells := Dispatcher.tells_edit (InputMethod.step_asides call)
        (P := fun e => e.lane? ≠ some kind) fun e he => by simp [Effect.lane?_of_isAside he]
      exact .bind (mirrors_tells htells) fun _ _ _ => .done _ _
  | pointer _ => cases hpointer
  | pointerLeft => cases hpointer
  | captureLost => cases hpointer
  | _ => cases hscroll

end Calls

/-! ## The pointer calls -/

theorem mirrors_attributesOf :
    Mirrors (K := K) (link kind) kind (Same (Attributes K)) attributesOf attributesOf :=
  fun f _ _ h => ⟨f, .refl _ f, Nat.le_refl _, h, fun _ _ => ⟨h.2.1, rfl⟩⟩

theorem mirrors_settleLifted (kind : SessionKind) :
    Mirrors (K := K) (link kind) kind (Anyway Unit Unit) (arbitrate Arbiter.settleLifted)
      (arbitrate Arbiter.settleLifted) := by
  cases kind with
  | drag =>
      exact mirrors_arbitrate (Arbiter.aside_settleLifted.mirrors Arbiter.aside_settleLifted)
  | scroll =>
      exact mirrors_arbitrate Arbiter.mirrors_settleLifted

theorem mirrors_pointer (e : PointerEvent K) :
    Mirrors (link .drag) .drag (Anyway Unit Unit) (pointer e) (pointer e) := by
  refine .bind (mirrors_settleLifted .drag) fun _ _ _ => .get_bind fun f r r' h => ?_
  refine Mirrors.bind (mirrors_warnIf _ _ _ _) (fun _ _ _ => ?_) f r r' h
  cases e.primary? with
  | none =>
      exact .done () ()
  | some e =>
      refine .bind (mirrors_modify (hold_eq e) (hold_eq e)) fun _ _ _ =>
        .bind mirrors_attributesOf ?_
      rintro attributes _ ⟨_, rfl⟩
      exact mirrors_arbitrate (Arbiter.mirrors_pointer e attributes.dragGestures)

theorem mirrors_pointerLeft :
    Mirrors (link .drag) .drag (Anyway Unit Unit) (pointerLeft : Act K (Relay K) Unit)
      pointerLeft :=
  .bind (mirrors_settleLifted .drag) fun _ _ _ => mirrors_notify fun _ => rfl

theorem mirrors_captureLost :
    Mirrors (link .drag) .drag (Anyway Unit Unit) (captureLost : Act K (Relay K) Unit)
      captureLost :=
  .bind (mirrors_modify (fun _ => ⟨_, rfl⟩) fun _ => ⟨_, rfl⟩) fun _ _ _ =>
    .bind (mirrors_arbitrate (Arbiter.mirrors_finishDrag .cancel)) fun _ _ _ => .done () ()

/-- On the scroll side a pointer event does no more than settle a lifted gesture. -/
theorem mirrors_pointer_scroll [Scalar K] (e : PointerEvent K) :
    Mirrors (link .scroll) .scroll (Anyway Unit (Reply K)) (pointer e) (step .flushGestures) := by
  have hwarn (r : Relay K) : Mirrors (link .scroll) .scroll (Anyway Unit Unit)
      (warnIf (r.losesDoubleClick e) .lostDoubleClick : Act K (Relay K) Unit) (pure ()) := by
    refine mirrors_nothing (fun f r r' h => ?_) (fun r => ?_) ()
    · rwa [run_warnIf]
    · rw [run_warnIf]
      split <;> rfl
  have hattributes : Mirrors (link .scroll) .scroll (Anyway (Attributes K) Unit)
      (attributesOf : Act K (Relay K) (Attributes K)) (pure ()) := by
    refine mirrors_nothing (fun f r r' h => ?_) (fun _ => rfl) ()
    exact h
  -- Both settle first.  The rest of the pointer event is left out piece by piece.
  refine .bind (mirrors_settleLifted .scroll) fun _ _ _ =>
    .get_skip fun r => (hwarn r).skip fun _ => ?_
  cases e.primary? with
  | none =>
      exact .done () _
  | some e =>
      refine (mirrors_hold e ()).skip fun _ => hattributes.skip fun attributes => ?_
      exact mirrors_apart (Arbiter.apart_pointer e attributes.dragGestures) _

theorem mirrors_pointerLeft_scroll [Scalar K] :
    Mirrors (link .scroll) .scroll (Anyway Unit (Reply K)) (pointerLeft : Act K (Relay K) Unit)
      (step .flushGestures) := by
  refine .bind (mirrors_settleLifted .scroll) fun _ _ _ => ?_
  have htell : Dispatcher.Tells (fun e => e.lane? ≠ some .scroll)
      (Dispatcher.notify (K := K) .mouseLeave) :=
    Dispatcher.tells_notify (by simp [Effect.lane?, Callback.lane?])
  exact mirrors_apart (Arbiter.aside_dispatch htell).apart _

theorem mirrors_captureLost_scroll :
    Mirrors (link .scroll) .scroll (Anyway Unit Unit) (captureLost : Act K (Relay K) Unit)
      (pure ()) := by
  have hforget : Mirrors (link .scroll) .scroll (Anyway Unit Unit)
      (forgetButtons : Act K (Relay K) Unit) (pure ()) := by
    refine mirrors_nothing (fun f r r' h => ?_) (fun _ => rfl) ()
    exact h
  exact hforget.skip fun _ =>
    (mirrors_apart (Arbiter.aside_finishDrag .cancel).apart ()).skip fun _ => .done () ()

/-! ## Turns -/

section Answers

variable [Scalar K]

/-- The answer of a scroll call, and nothing for another turn. -/
def answer : Turn K → Act K (Relay K) (List (Reply K))
  | .call c => do
      let reply ← step c
      pure (if c.asksScroll then [reply] else [])
  | .adapt l => do
      modify (hear l)
      pure []

/-- The answers of the scroll calls in a list of turns. -/
def scrollAnswers (turns : List (Turn K)) (r : Relay K) : List (Reply K) :=
  ((Action.replay answer turns).run r).value.flatten

theorem state_answer (t : Turn K) (r : Relay K) :
    ((answer t).run r).state = ((turn t).run r).state ∧
      ((answer t).run r).effects = ((turn t).run r).effects := by
  cases t <;> exact ⟨rfl, rfl⟩

/-- It is the same life, with and without the answers. -/
theorem state_replay_answer (turns : List (Turn K)) (r : Relay K) :
    ((Action.replay answer turns).run r).state = ((Action.replay turn turns).run r).state ∧
      ((Action.replay answer turns).run r).effects =
        ((Action.replay turn turns).run r).effects := by
  induction turns generalizing r with
  | nil =>
      exact ⟨rfl, rfl⟩
  | cons t turns ih =>
      rcases state_answer t r with ⟨hstate, heffects⟩
      rcases ih ((turn t).run r).state with ⟨hstate', heffects'⟩
      simp only [Action.run_replay_cons, hstate, heffects]
      exact ⟨hstate', by rw [heffects']⟩

end Answers

/-- The answers correspond on the scroll side.  On the drag side they do not matter. -/
def Alike : SessionKind → (Nat → Nat) → List (Reply K) → List (Reply K) → Prop
  | .drag, _, _, _ => True
  | .scroll, f, xs, ys => xs = ys.map (Reply.renumber f)

theorem Alike.append {f : Nat → Nat} {xs ys xs' ys' : List (Reply K)} (h : Alike kind f xs ys)
    (h' : Alike kind f xs' ys') : Alike kind f (xs ++ xs') (ys ++ ys') := by
  cases kind with
  | drag => trivial
  | scroll =>
      simp only [Alike] at h h' ⊢
      rw [h, h', List.map_append]

theorem Alike.nil (kind : SessionKind) (f : Nat → Nat) :
    Alike kind f ([] : List (Reply K)) [] := by
  cases kind <;> trivial

section Turns

variable [Scalar K]

/-- Turns that are replaced or left out one by one, without a difference on one side. -/
theorem mirrors_replay {image : Turn K → Option (Turn K)}
    (replaced : ∀ t u, image t = some u →
      Mirrors (link kind) kind (Alike kind) (answer t) (answer u))
    (omitted : ∀ t, image t = none →
      Mirrors (link kind) kind (fun f xs _ => Alike kind f xs []) (answer t) (pure ()))
    (turns : List (Turn K)) :
    Mirrors (link kind) kind (fun f xs ys => Alike kind f xs.flatten ys.flatten)
      (Action.replay answer turns) (Action.replay answer (turns.filterMap image)) := by
  induction turns with
  | nil =>
      exact .pure (Alike.nil kind)
  | cons t turns ih =>
      cases hturn : image t with
      | none =>
          -- Nothing corresponds to the turn: the second life has one turn less.
          rw [List.filterMap_cons_none hturn]
          have h := (omitted t hturn).both ih
            (T := fun f xs ys => Alike kind f xs.flatten ys.flatten) (p := List.cons)
            (q := fun _ ys => ys) fun f x y z w hR hS => Alike.append hR hS
          simp only [pure_bind, bind_pure] at h
          exact h
      | some u =>
          rw [List.filterMap_cons_some hturn]
          exact (replaced t u hturn).both ih fun f x y z w hR hS => Alike.append hR hS

/-! ## Without scrolling -/

theorem mirrors_unscrolled {c : Call K} (h : c.isScrollSide = true) :
    Mirrors (link .drag) .drag (Anyway (Reply K) Unit) (step c) (pure ()) := by
  cases c with
  | scroll input =>
      have hsettle : Mirrors (link .drag) .drag (Anyway Unit Unit)
          (arbitrate Arbiter.settleLifted : Act K (Relay K) Unit) (pure ()) :=
        mirrors_apart Arbiter.aside_settleLifted.apart ()
      have htrack : Mirrors (link .drag) .drag (Anyway (Option (ScrollEvent K)) Unit)
          (trackScroll input : Act K (Relay K) _) (pure ()) := by
        -- The tracker moves on alone, and on the drag side it is not linked.
        refine mirrors_nothing (fun f r r' h => ?_) (fun _ => rfl) ()
        exact ⟨h.1, h.2.1, nofun⟩
      have htell (e : ScrollEvent K) : Dispatcher.Tells (fun e => e.lane? ≠ some .drag)
          (Dispatcher.scroll e) := by
        unfold Dispatcher.scroll
        cases e.kind <;>
          exact Dispatcher.tells_notify (by simp [Effect.lane?, Callback.lane?])
      have hscroll : Mirrors (link .drag) .drag (Anyway Unit Unit) (scroll input) (pure ()) := by
        refine hsettle.skip fun _ => htrack.skip fun event => ?_
        cases event with
        | none => exact .done () ()
        | some e => exact mirrors_apart (Arbiter.aside_dispatch (htell e)).apart ()
      exact hscroll.skip fun _ => .done _ _
  | beginScrollGesture p =>
      exact (mirrors_apart (Arbiter.apart_beginScroll p) ()).skip fun _ => .done _ _
  | scrollGestureMotion precise d t =>
      exact (mirrors_apart (Arbiter.aside_scrollMotion precise d t).apart ()).skip
        fun _ => .done _ _
  | liftScrollGesture =>
      exact (mirrors_apart Arbiter.aside_liftScroll.apart ()).skip fun _ => .done _ _
  | startMomentum =>
      exact (mirrors_apart Arbiter.aside_startMomentum.apart ()).skip fun _ => .done _ _
  | endScrollGesture =>
      exact (mirrors_apart (Arbiter.aside_finishScroll .release).apart ()).skip fun _ => .done _ _
  | cancelScrollGesture =>
      exact (mirrors_apart (Arbiter.aside_finishScroll .cancel).apart ()).skip fun _ => .done _ _
  | flushGestures =>
      exact (mirrors_apart Arbiter.aside_settleLifted.apart ()).skip fun _ => .done _ _
  | _ => cases h

theorem mirrors_drag_side {c : Call K} (h : c.isScrollSide = false) :
    Mirrors (link .drag) .drag (Anyway (Reply K) (Reply K)) (step c) (step c) := by
  cases hpointer : c.isPointerSide with
  | false =>
      exact mirrors_step h hpointer
  | true =>
      cases c with
      | pointer e =>
          exact .bind (mirrors_pointer e) fun _ _ _ => .done _ _
      | pointerLeft =>
          exact .bind mirrors_pointerLeft fun _ _ _ => .done _ _
      | captureLost =>
          exact .bind mirrors_captureLost fun _ _ _ => .done _ _
      | _ => cases hpointer

theorem mirrors_adapt (kind : SessionKind) (l : Listener K) :
    Mirrors (link kind) kind (Alike kind) (answer (.adapt l)) (answer (.adapt l)) := by
  have hhear : Mirrors (link kind) kind (Anyway Unit Unit) (modify (hear l) : Act K (Relay K) Unit)
      (modify (hear l)) :=
    mirrors_arbitrate ((Arbiter.aside_hear kind l).mirrors (Arbiter.aside_hear kind l))
  exact .bind hhear fun _ _ _ => .pure (Alike.nil kind)

theorem mirrors_replay_unscrolled (turns : List (Turn K)) :
    Mirrors (link .drag) .drag (fun f xs ys => Alike .drag f xs.flatten ys.flatten)
      (Action.replay answer turns) (Action.replay answer (turns.filterMap Turn.withoutScroll?)) := by
  refine mirrors_replay (fun t u hu => ?_) (fun t ht => ?_) turns
  · cases t with
    | adapt l =>
        cases hu
        exact mirrors_adapt .drag l
    | call c =>
        cases hscroll : c.isScrollSide with
        | true =>
            simp [Turn.withoutScroll?, hscroll] at hu
        | false =>
            simp only [Turn.withoutScroll?, hscroll] at hu
            cases hu
            exact .map (mirrors_drag_side hscroll) fun _ _ _ _ => trivial
  · cases t with
    | adapt l =>
        cases ht
    | call c =>
        cases hscroll : c.isScrollSide with
        | true =>
            exact (mirrors_unscrolled hscroll).skip fun _ => .pure fun _ => trivial
        | false =>
            simp [Turn.withoutScroll?, hscroll] at ht

/-! ## Without pointer input -/

theorem mirrors_scroll (input : ScrollInput K) :
    Mirrors (link .scroll) .scroll (Anyway Unit Unit) (scroll input) (scroll input) := by
  have htrack : Mirrors (link .scroll) .scroll (Same (Option (ScrollEvent K)))
      (trackScroll input : Act K (Relay K) _) (trackScroll input) := by
    rintro f r r' ⟨harbiter, hattributes, htracker⟩
    -- The trackers are the same, so they answer the same and stay so.
    have htracker := htracker rfl
    refine ⟨f, .refl _ f, Nat.le_refl _, ⟨harbiter, hattributes, fun _ => ?_⟩,
      fun _ _ => ⟨?_, rfl⟩⟩
    · simp [trackScroll, htracker]
    · simp [trackScroll, htracker]
  refine .bind (mirrors_settleLifted .scroll) fun _ _ _ => .bind htrack ?_
  rintro event _ ⟨_, rfl⟩
  cases event with
  | none =>
      exact .done () ()
  | some e =>
      simp only [Dispatcher.scroll]
      cases e.kind <;> exact mirrors_notify fun _ => rfl

/-- The answers to scroll calls are the same but for the number of the token. -/
theorem mirrors_asking {c : Call K} (h : c.asksScroll = true) :
    Mirrors (link .scroll) .scroll (fun f x y => x = Reply.renumber f y) (step c) (step c) := by
  cases c with
  | beginScrollGesture p =>
      exact .map (mirrors_arbitrate (Arbiter.mirrors_beginScroll p))
        fun _ _ _ heq => congrArg Reply.token heq
  | scrollGestureMotion precise d t =>
      exact .map (mirrors_arbitrate (Arbiter.mirrors_scrollMotion precise d t))
        fun _ _ _ heq => congrArg Reply.yesNo heq
  | liftScrollGesture =>
      exact .map (mirrors_arbitrate Arbiter.mirrors_liftScroll)
        fun _ _ _ heq => congrArg Reply.yesNo heq
  | startMomentum =>
      exact .map (mirrors_arbitrate Arbiter.mirrors_startMomentum)
        fun _ _ _ heq => congrArg Reply.yesNo heq
  | endScrollGesture =>
      exact .map (mirrors_arbitrate (Arbiter.mirrors_finishScroll .release))
        fun _ _ _ heq => congrArg Reply.yesNo heq
  | cancelScrollGesture =>
      exact .map (mirrors_arbitrate (Arbiter.mirrors_finishScroll .cancel))
        fun _ _ _ heq => congrArg Reply.yesNo heq
  | _ => cases h

/-- The answers of calls that are not asked for play no part. -/
theorem mirrors_quiet {c c' : Call K} (hasks : c.asksScroll = false) (hasks' : c'.asksScroll = false)
    (h : Mirrors (link .scroll) .scroll (Anyway (Reply K) (Reply K)) (step c) (step c')) :
    Mirrors (link .scroll) .scroll (Alike .scroll) (answer (.call c)) (answer (.call c')) := by
  refine .map h fun f x y _ => ?_
  simp [Alike, hasks, hasks']

theorem mirrors_scroll_side {c : Call K} (h : c.isPointerSide = false) :
    Mirrors (link .scroll) .scroll (Alike .scroll) (answer (.call c)) (answer (.call c)) := by
  cases hasks : c.asksScroll with
  | true =>
      refine .map (mirrors_asking hasks) fun f x y heq => ?_
      simp [Alike, hasks, heq]
  | false =>
      refine mirrors_quiet hasks hasks ?_
      cases hscroll : c.isScrollSide with
      | false =>
          exact mirrors_step hscroll h
      | true =>
          cases c with
          | scroll input => exact .bind (mirrors_scroll input) fun _ _ _ => .done _ _
          | flushGestures => exact .bind (mirrors_settleLifted .scroll) fun _ _ _ => .done _ _
          | _ => simp_all [Call.isScrollSide]

theorem mirrors_replay_unpointed (turns : List (Turn K)) :
    Mirrors (link .scroll) .scroll (fun f xs ys => Alike .scroll f xs.flatten ys.flatten)
      (Action.replay answer turns)
      (Action.replay answer (turns.filterMap Turn.withoutPointer?)) := by
  refine mirrors_replay (fun t u hu => ?_) (fun t ht => ?_) turns
  · cases t with
    | adapt l =>
        cases hu
        exact mirrors_adapt .scroll l
    | call c =>
        cases c with
        | pointer e =>
            cases hu
            exact mirrors_quiet rfl rfl (mirrors_pointer_scroll e).forget
        | pointerLeft =>
            cases hu
            exact mirrors_quiet rfl rfl mirrors_pointerLeft_scroll.forget
        | captureLost =>
            cases hu
        | _ =>
            cases hu
            exact mirrors_scroll_side rfl
  · cases t with
    | adapt l => cases ht
    | call c =>
        cases c with
        | captureLost =>
            exact mirrors_captureLost_scroll.forget.skip fun _ => .pure fun _ => rfl
        | _ => cases ht

end Turns

/-! ## Whole lives -/

theorem linked_attach (kind : SessionKind) (handle : WindowHandle) (attributes : Attributes K)
    (listener : Listener K) :
    (link kind).rel id (attach handle attributes listener) (attach handle attributes listener) :=
  ⟨.initial _ rfl, rfl, fun _ => rfl⟩

theorem news_unscrolled (turns : List (Turn K)) :
    (turns.filterMap Turn.withoutScroll?).filterMap Turn.news? = turns.filterMap Turn.news? := by
  rw [List.filterMap_filterMap]
  refine List.filterMap_congr fun t _ => ?_
  rcases t with c | l
  · cases c <;> rfl
  · rfl

/-- Scrolling left out, the pointer callbacks, the pressed buttons and the drag are the same.
Pointer input left out, with only the news that something happened in its place, the scroll
callbacks, the scroll gesture, the phase and the answers to scroll calls are the same.  The numbers
of the sessions, and the tokens with them, are counted otherwise, but in the same order. -/
theorem lanes_are_undisturbed [Scalar K] (handle : WindowHandle) (attributes : Attributes K)
    (listener : Listener K) (turns : List (Turn K)) :
    let full := live handle attributes listener turns
    let unscrolled := live handle attributes listener (turns.filterMap Turn.withoutScroll?)
    let unpointed := live handle attributes listener (turns.filterMap Turn.withoutPointer?)
    (∃ f, StrictMono f ∧
      laneCalls .drag full.effects =
        (laneCalls .drag unscrolled.effects).map (Callback.renumber f) ∧
      full.state.pressed = unscrolled.state.pressed ∧
      full.state.arbiter.drag =
        unscrolled.state.arbiter.drag.renumber f (DragSession.renumber f)) ∧
    ∃ f, StrictMono f ∧
      laneCalls .scroll full.effects =
        (laneCalls .scroll unpointed.effects).map (Callback.renumber f) ∧
      full.state.arbiter.scroll =
        unpointed.state.arbiter.scroll.renumber f (ScrollSession.renumber f) ∧
      full.state.arbiter.stage? = unpointed.state.arbiter.stage? ∧
      full.state.tracker = unpointed.state.tracker ∧
      scrollAnswers turns (attach handle attributes listener) =
        (scrollAnswers (turns.filterMap Turn.withoutPointer?)
          (attach handle attributes listener)).map (Reply.renumber f) := by
  intro full unscrolled unpointed
  have hanswer (turns : List (Turn K)) := state_replay_answer turns (attach handle attributes listener)
  constructor
  · rcases mirrors_replay_unscrolled turns id _ _ (linked_attach .drag handle attributes listener)
      with ⟨f, -, -, ⟨hlinked, -, -⟩, hcalls⟩
    rw [(hanswer _).1, (hanswer _).1] at hlinked
    have hcalls := (hcalls f (.refl _ f)).2
    rw [(hanswer _).2, (hanswer _).2] at hcalls
    refine ⟨f, hlinked.mono, hcalls, ?_, hlinked.drag_eq (.refl _ f)⟩
    -- The set of pressed buttons goes by the news of the turns, and scrolling has none.
    simp only [full, unscrolled, live, pressed_replay, news_unscrolled]
  · rcases mirrors_replay_unpointed turns id _ _ (linked_attach .scroll handle attributes listener)
      with ⟨f, -, -, ⟨hlinked, -, htracker⟩, hcalls⟩
    have htracker := htracker rfl
    rw [(hanswer _).1, (hanswer _).1] at hlinked htracker
    rcases hcalls f (.refl _ f) with ⟨hanswers, hcalls⟩
    rw [(hanswer _).2, (hanswer _).2] at hcalls
    exact ⟨f, hlinked.mono, hcalls, hlinked.scroll_eq (.refl _ f), hlinked.stage, htracker,
      hanswers⟩

end Relay
end WindowRelay

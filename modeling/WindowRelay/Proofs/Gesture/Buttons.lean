import Mathlib.Data.Finset.Basic
import WindowRelay.Proofs.Gesture.Playing

/-!
# Buttons — what a drag can know of them

A drag keeps the buttons that are held down in a word of 32 bits, and tells buttons apart by their
bits.  Any other naming of the buttons serves as well that tells them apart in the same way: the
buttons with an index up to `MouseButton.maxIndex` can name themselves.

- `Names`: a naming that tells the buttons of a set apart as their bits do.
- `Holds`: a word and a finite set of names are the same buttons.
- `Act.Emits`: what all effects of an operation satisfy, whatever the state.
- `Arbiter.Utters`, `Arbiter.Call.Utters`: all that is told of a pointer event, and during a call.
- `Arbiter.Call.Utters.namesOnly`: a call names no button to a drag but that of its own event.
-/

namespace WindowRelay

variable {ι : Type}

/-! ## Names of buttons -/

/-- The naming tells the known buttons apart as a held-button set does. -/
def Names (known : Set MouseButton) (name : MouseButton → ι) : Prop :=
  ∀ b ∈ known, ∀ b' ∈ known, name b = name b' ↔ Bit.position b = Bit.position b'

/-- Any buttons can be called by their bits. -/
theorem names_position : Names Set.univ (Bit.position : MouseButton → Fin 32) := by
  intro b _ b' _
  rfl

/-- The buttons that a held-button set tells apart can be called by themselves. -/
theorem names_self : Names {b | b.index.toNat ≤ MouseButton.maxIndex} id := by
  intro b hb b' hb'
  have hsmall : b.index.toNat ≤ 31 := hb
  have hsmall' : b'.index.toNat ≤ 31 := hb'
  constructor
  · intro h
    rw [id_eq, id_eq] at h
    rw [h]
  · intro h
    have hmod : b.index.toNat % 32 = b'.index.toNat % 32 := congrArg Fin.val h
    have hindex : b.index = b'.index := UInt8.toNat_inj.1 (by omega)
    exact congrArg MouseButton.mk hindex

/-- The word `m` and the names in `held` are the same buttons, all of them known. -/
structure Holds (known : Set MouseButton) (name : MouseButton → ι) (m : ButtonSet)
    (held : Finset ι) : Prop where
  has_iff : ∀ b ∈ known, m.has b = true ↔ name b ∈ held
  of_bit : ∀ n, m.bits.getLsbD n = true → ∃ b ∈ known, n = Bit.position b
  of_name : ∀ x ∈ held, ∃ b ∈ known, x = name b

namespace Holds

variable {known : Set MouseButton} {name : MouseButton → ι} {m : ButtonSet} {held : Finset ι}
  {b : MouseButton}

theorem single (names : Names known name) (hb : b ∈ known) :
    Holds known name (Mask.single b) {name b} where
  has_iff b' hb' := by
    rw [Finset.mem_singleton, names b' hb' b hb, Mask.has, Mask.getLsbD_single,
      decide_eq_true_iff, Fin.ext_iff]
  of_bit n hn := by
    rw [Mask.getLsbD_single] at hn
    exact ⟨b, hb, of_decide_eq_true hn⟩
  of_name x hx := ⟨b, hb, Finset.mem_singleton.1 hx⟩

theorem insert [DecidableEq ι] (h : Holds known name m held) (names : Names known name)
    (hb : b ∈ known) : Holds known name (m.insert b) (insert (name b) held) where
  has_iff b' hb' := by
    rw [Finset.mem_insert, names b' hb' b hb, ← h.has_iff b' hb', Mask.has_insert]
    simp [or_comm]
  of_bit n hn := by
    rw [Mask.getLsbD_insert, Bool.or_eq_true, decide_eq_true_iff] at hn
    rcases hn with hold | hnew
    · exact h.of_bit n hold
    · exact ⟨b, hb, hnew⟩
  of_name x hx := by
    rcases Finset.mem_insert.1 hx with hnew | hold
    · exact ⟨b, hb, hnew⟩
    · exact h.of_name x hold

theorem erase [DecidableEq ι] (h : Holds known name m held) (names : Names known name)
    (hb : b ∈ known) : Holds known name (m.erase b) (held.erase (name b)) where
  has_iff b' hb' := by
    rw [Finset.mem_erase, ne_eq, names b' hb' b hb, ← h.has_iff b' hb', Mask.has_erase]
    simp [and_comm]
  of_bit n hn := by
    rw [Mask.getLsbD_erase, Bool.and_eq_true] at hn
    exact h.of_bit n hn.1
  of_name x hx := h.of_name x (Finset.mem_of_mem_erase hx)

theorem isEmpty_iff (h : Holds known name m held) : m.isEmpty = true ↔ held = ∅ := by
  constructor
  · intro hempty
    have hzero : m.bits = 0 := by
      simpa [Mask.isEmpty] using hempty
    refine Finset.eq_empty_of_forall_notMem fun x hx => ?_
    rcases h.of_name x hx with ⟨b, hb, rfl⟩
    have hbit := (h.has_iff b hb).2 hx
    simp [Mask.has, hzero] at hbit
  · intro hempty
    have hzero : m = Mask.empty := by
      refine Mask.ext_bits fun n _ => ?_
      rw [Mask.getLsbD_empty, Bool.eq_false_iff]
      intro hn
      rcases h.of_bit n hn with ⟨b, hb, rfl⟩
      have hname := (h.has_iff b hb).1 hn
      simp [hempty] at hname
    rw [hzero]
    rfl

theorem nonempty_iff (h : Holds known name m held) : m.isEmpty = false ↔ held.Nonempty := by
  rw [Finset.nonempty_iff_ne_empty, ne_eq, ← h.isEmpty_iff, Bool.not_eq_true]

end Holds

/-! ## What operations emit -/

namespace Act

variable {K σ α β : Type} {P : Effect K → Prop}

def Emits (P : Effect K → Prop) (m : Act K σ α) : Prop :=
  ∀ s, ∀ e ∈ (m.run s).effects, P e

namespace Emits

theorem pure (x : α) : Emits P (pure x : Act K σ α) := by
  intro s e he
  cases he

theorem get : Emits P (get : Act K σ σ) := by
  intro s e he
  cases he

theorem set (t : σ) : Emits P (set t : Act K σ PUnit) := by
  intro s e he
  cases he

theorem modify (f : σ → σ) : Emits P (modify f : Act K σ PUnit) := by
  intro s e he
  cases he

theorem bind {m : Act K σ α} {f : α → Act K σ β} (hm : Emits P m) (hf : ∀ x, Emits P (f x)) :
    Emits P (m >>= f) := by
  intro s e he
  rw [Action.run_bind] at he
  rcases List.mem_append.1 he with he | he
  · exact hm s e he
  · exact hf (m.run s).value _ e he

theorem call {c : Callback K} (h : P (.callback c)) : Emits P (call c : Act K σ Unit) := by
  intro s e he
  cases List.mem_singleton.1 he
  exact h

theorem warn {w : Warning} (h : P (.warning w)) : Emits P (warn w : Act K σ Unit) := by
  intro s e he
  cases List.mem_singleton.1 he
  exact h

theorem ite {c : Prop} [Decidable c] {m n : Act K σ α} (hm : Emits P m) (hn : Emits P n) :
    Emits P (if c then m else n) := by
  split
  · exact hm
  · exact hn

theorem dispatch {m : Act K (Dispatcher K) α} (hm : Emits P m) :
    Emits P (Arbiter.dispatch m) := by
  intro a
  exact hm a.dispatcher

theorem mono {Q : Effect K → Prop} {m : Act K σ α} (hm : Emits P m) (h : ∀ e, P e → Q e) :
    Emits Q m := by
  intro s e he
  exact h e (hm s e he)

end Emits

end Act

/-! ## The buttons that effects name -/

/-- The button that a callback names to a drag. -/
def Effect.dragButton? {K : Type} : Effect K → Option MouseButton
  | .callback (.beginDrag _ _ b) => some b
  | .callback (.drag _ (.mouseDown _ b)) => some b
  | .callback (.drag _ (.mouseUp _ b)) => some b
  | _ => none

/-- No button but `b?` is named to a drag. -/
def Effect.NamesOnly {K : Type} (b? : Option MouseButton) (e : Effect K) : Prop :=
  ∀ b, e.dragButton? = some b → b? = some b

namespace Arbiter

open Act

variable {K : Type} {P : Effect K → Prop} {b? : Option MouseButton}

theorem emits_notify {c : Callback K} (h : P (.callback c)) :
    Emits P (dispatch (Dispatcher.notify c)) :=
  .dispatch (.bind .get fun _ => .ite (.call h) (.pure _))

theorem emits_finishDrag {how : Ending} (h : ∀ n, P (.callback (.drag n (.ended how)))) :
    Emits P (finishDrag how : Act K (Arbiter K) Bool) := by
  refine .bind .get fun a => ?_
  cases a.drag.session with
  | none =>
      exact .pure _
  | some s =>
      have hfinish : Emits (K := K) P (s.capability.finish how) :=
        .bind (.call (h _)) fun _ => .modify _
      exact .bind (.set _) fun _ => .bind (.dispatch hfinish) fun _ => .pure _

/-- A scroll gesture ends on its own session. -/
theorem emits_finishScroll (hfinish : ∀ n, P (.callback (.scroll n .finish)))
    (hended : ∀ n how, P (.callback (.scroll n (.ended how)))) (how : Ending) :
    Emits P (finishScroll how : Act K (Arbiter K) Bool) := by
  refine .bind .get fun a => ?_
  cases a.scroll.session with
  | none =>
      exact .pure _
  | some s =>
      have hlast (how : Ending) : Emits (K := K) P (s.capability.finish how) :=
        .bind (.call (hended _ _)) fun _ => .modify _
      have hend : Emits (K := K) P (s.finish how) := by
        cases how with
        | release => exact .bind (.call (hfinish _)) fun _ => hlast .release
        | cancel => exact hlast .cancel
      exact .bind (.set _) fun _ => .bind (.dispatch hend) fun _ => .pure _

theorem emits_settleLifted (hfinish : ∀ n, P (.callback (.scroll n .finish)))
    (hended : ∀ n how, P (.callback (.scroll n (.ended how)))) :
    Emits P (settleLifted : Act K (Arbiter K) Unit) :=
  .bind .get fun _ =>
    .ite (.bind (emits_finishScroll hfinish hended .release) fun _ => .pure _) (.pure _)

theorem emits_cancel (hfinish : ∀ n, P (.callback (.scroll n .finish)))
    (hdrag : ∀ n how, P (.callback (.drag n (.ended how))))
    (hscroll : ∀ n how, P (.callback (.scroll n (.ended how)))) (kind : SessionKind) :
    Emits P (cancel kind : Act K (Arbiter K) Bool) := by
  cases kind with
  | drag => exact emits_finishDrag fun n => hdrag n .cancel
  | scroll => exact emits_finishScroll hfinish hscroll .cancel

theorem emits_cancelAll (hfinish : ∀ n, P (.callback (.scroll n .finish)))
    (hdrag : ∀ n how, P (.callback (.drag n (.ended how))))
    (hscroll : ∀ n how, P (.callback (.scroll n (.ended how)))) :
    Emits P (cancelAll : Act K (Arbiter K) Unit) :=
  .bind (emits_cancel hfinish hdrag hscroll .drag) fun _ =>
    .bind (emits_cancel hfinish hdrag hscroll .scroll) fun _ => .pure _

/-! ### Pointer events -/

theorem emits_openSession {kind : SessionKind} {request : Nat → Callback K}
    (h : ∀ n, P (.callback (request n))) : Emits P (Dispatcher.openSession kind request) :=
  .bind .get fun d => .ite
    (.bind (.call (h d.ledger.opened)) fun _ => .bind (.set _) fun _ => .pure _) (.pure _)

theorem emits_nextToken : Emits P (nextToken : Act K (Arbiter K) _) :=
  .bind .get fun _ => .bind (.set _) fun _ => .pure _

/-- What is told of a pointer event at `p` with the button `b?`. -/
inductive Utters (p : Point K) (b? : Option MouseButton) : Effect K → Prop
  | motion : Utters p b? (.callback (.mouseMotion p))
  | dragMotion (n : Nat) : Utters p b? (.callback (.drag n (.motion p)))
  | button (b : MouseButton) (pressed : Bool) (named : b? = some b) :
      Utters p b? (.callback (.mouseButton p pressed b))
  | beginDrag (n : Nat) (b : MouseButton) (named : b? = some b) :
      Utters p b? (.callback (.beginDrag n p b))
  | mouseDown (n : Nat) (b : MouseButton) (named : b? = some b) :
      Utters p b? (.callback (.drag n (.mouseDown p b)))
  | mouseUp (n : Nat) (b : MouseButton) (named : b? = some b) :
      Utters p b? (.callback (.drag n (.mouseUp p b)))
  | release (n : Nat) : Utters p b? (.callback (.drag n (.ended .release)))

theorem emits_press (p : Point K) (b : MouseButton) (opensDrag : Bool) :
    Emits (Utters p (some b)) (press p b opensDrag) := by
  refine .bind .get fun a => ?_
  cases a.drag.session with
  | some s =>
      exact .ite (.pure _) (.bind (.set _) fun _ => .dispatch (.call (.mouseDown _ b rfl)))
  | none =>
      refine .ite (.bind (.dispatch ?_) fun c => ?_) (.pure _)
      · exact emits_openSession fun n => .beginDrag n b rfl
      · cases c with
        | none => exact .pure _
        | some c => exact .bind emits_nextToken fun _ => .modify _

theorem emits_letGo (p : Point K) (b : MouseButton) :
    Emits (Utters p (some b)) (letGo p b) := by
  refine .bind .get fun a => ?_
  cases a.drag.session with
  | none =>
      exact .pure _
  | some s =>
      refine .ite (.bind (.set _) fun _ => .bind (.dispatch (.call (.mouseUp _ b rfl))) fun _ => ?_)
        (.pure _)
      exact .ite (.bind (emits_finishDrag .release) fun _ => .pure _) (.pure _)

theorem emits_pointer (e : PointerEvent K) (dragGestures : Bool) :
    Emits (Utters e.position e.button) (pointer e dragGestures) := by
  unfold pointer
  cases e.button with
  | none =>
      refine .bind .get fun a => ?_
      cases a.drag.session with
      | none => exact emits_notify .motion
      | some s => exact .dispatch (.call (.dragMotion _))
  | some b =>
      exact .bind (emits_notify (.button b _ rfl)) fun _ =>
        .ite (emits_press e.position b dragGestures) (emits_letGo e.position b)

/-! ### Calls -/

/-- What can be told during a call.  A gesture may end during any. -/
inductive Call.Utters : Call K → Effect K → Prop
  | pointer {e : PointerEvent K} {drags : Bool} {x : Effect K}
      (utters : Arbiter.Utters e.position e.button x) : Utters (.pointer e drags) x
  | dragEnded (c : Call K) (n : Nat) (how : Ending) : Utters c (.callback (.drag n (.ended how)))
  | scrollFinished (c : Call K) (n : Nat) : Utters c (.callback (.scroll n .finish))
  | scrollEnded (c : Call K) (n : Nat) (how : Ending) :
      Utters c (.callback (.scroll n (.ended how)))
  | beginScroll (n : Nat) (p : Point K) : Utters (.beginScroll p) (.callback (.beginScroll n p))
  | motion (n : Nat) (precise : Bool) (d v : Delta K) (t : Time) :
      Utters (.scrollMotion precise d t) (.callback (.scroll n (.motion precise d v)))
  | startMomentum (n : Nat) : Utters .startMomentum (.callback (.scroll n .startMomentum))
  | closed : Utters .closed (.callback .closed)
  | leak : Utters .closed (.warning .closedWithOpenCapabilities)

variable {c : Call K}

theorem utters_settleLifted : Emits c.Utters settleLifted :=
  emits_settleLifted (.scrollFinished c) (.scrollEnded c)

theorem utters_beginScroll (p : Point K) : Emits (Call.beginScroll p).Utters (beginScroll p) := by
  refine .bind utters_settleLifted fun _ => .bind .get fun a => ?_
  cases a.scroll.session with
  | some s =>
      exact .pure _
  | none =>
      refine .bind (.dispatch (emits_openSession fun n => .beginScroll n p)) fun c => ?_
      cases c with
      | none => exact .pure _
      | some c => exact .bind emits_nextToken fun _ => .bind (.modify _) fun _ => .pure _

theorem utters_scrollMotion [Scalar K] (precise : Bool) (d : Delta K) (t : Time) :
    Emits (Call.scrollMotion precise d t).Utters (scrollMotion precise d t) := by
  refine .bind utters_settleLifted fun _ => .bind .get fun a => ?_
  cases a.scroll.session with
  | none =>
      exact .pure _
  | some s =>
      exact .bind (.set _) fun _ => .bind (.dispatch (.call (.motion _ precise d _ t))) fun _ =>
        .pure _

theorem emits_advance (source target : ScrollStage) :
    Emits P (advance source target : Act K (Arbiter K) _) := by
  refine .bind .get fun a => ?_
  cases a.scroll.session with
  | none => exact .pure _
  | some s => exact .ite (.bind (.set _) fun _ => .pure _) (.pure _)

theorem utters_startMomentum : Emits (Call.startMomentum (K := K)).Utters startMomentum := by
  refine .bind (emits_advance .lifted .momentum) fun s => ?_
  cases s with
  | none =>
      exact .pure _
  | some s =>
      exact .bind (.dispatch (.call (.startMomentum _))) fun _ => .pure _

theorem emits_closed (h : P (.callback .closed))
    (hopen : P (.warning .closedWithOpenCapabilities)) :
    Emits P (Dispatcher.closed : Act K _ Unit) := by
  refine .bind .get fun d => .ite ?_ (.pure _)
  exact .bind (.modify _) fun _ => .bind (.call h) fun _ => .ite (.warn hopen) (.pure _)

theorem utters_cancelAll : Emits (Call.cancelAll (K := K)).Utters cancelAll :=
  emits_cancelAll (.scrollFinished _) (.dragEnded _) (.scrollEnded _)

theorem utters_step [Scalar K] (c : Call K) : Emits c.Utters (step c) := by
  cases c with
  | pointer e drags =>
      exact .bind ((emits_pointer e drags).mono fun _ => .pointer) fun _ => .pure _
  | beginScroll p => exact .bind (utters_beginScroll p) fun _ => .pure _
  | scrollMotion precise d t => exact .bind (utters_scrollMotion precise d t) fun _ => .pure _
  | liftScroll => exact .bind (.bind (emits_advance _ _) fun _ => .pure _) fun _ => .pure _
  | startMomentum => exact .bind utters_startMomentum fun _ => .pure _
  | endScroll =>
      have hend : Emits (Call.endScroll (K := K)).Utters (finishScroll .release) :=
        emits_finishScroll (.scrollFinished _) (.scrollEnded _) .release
      exact .bind hend fun _ => .pure _
  | settleLifted => exact .bind utters_settleLifted fun _ => .pure _
  | cancel kind =>
      have hcancel : Emits (Call.cancel (K := K) kind).Utters (Arbiter.cancel kind) :=
        emits_cancel (.scrollFinished _) (.dragEnded _) (.scrollEnded _) kind
      exact .bind hcancel fun _ => .pure _
  | cancelAll => exact .bind utters_cancelAll fun _ => .pure _
  | closed => exact .bind (.dispatch (emits_closed .closed .leak)) fun _ => .pure _

/-! ### Buttons of calls -/

/-- The button of the event that a call hands on. -/
def Call.button? : Call K → Option MouseButton
  | .pointer e _ => e.button
  | _ => none

theorem Utters.namesOnly {p : Point K} {e : Effect K} (h : Utters p b? e) : e.NamesOnly b? := by
  intro b hb
  cases h with
  | beginDrag n b' named | mouseDown n b' named | mouseUp n b' named =>
      cases hb
      exact named
  | _ => cases hb

theorem Call.Utters.namesOnly {e : Effect K} (h : c.Utters e) : e.NamesOnly c.button? := by
  cases h with
  | pointer utters => exact utters.namesOnly
  | _ =>
      intro b hb
      cases hb

theorem emits_replay [Scalar K] {known : Set MouseButton} {calls : List (Call K)}
    (hcalls : ∀ c ∈ calls, ∀ b, c.button? = some b → b ∈ known) :
    Emits (fun e => ∀ b, e.dragButton? = some b → b ∈ known) (Action.replay step calls) := by
  induction calls with
  | nil =>
      exact .pure []
  | cons c calls ih =>
      have hstep : Emits (fun e => ∀ b, e.dragButton? = some b → b ∈ known) (step c) := by
        intro a e he b hb
        exact hcalls c List.mem_cons_self b ((utters_step c a e he).namesOnly b hb)
      have hrest := ih fun d hd => hcalls d (List.mem_cons_of_mem c hd)
      exact .bind hstep fun _ => .bind hrest fun _ => .pure _

end Arbiter

end WindowRelay

import WindowRelay.Gesture.Arbiter

/-!
# Moves — what an arbiter can do in one step

An operation of the arbiter is a short sequence of *moves*.  A move says exactly what happens to
the state and which effects it has, so a property of all runs is proved by one case for each move.

- `Arbiter.Move` is the labelled transition relation.
- `Arbiter.Play P` is a sequence of moves whose effects all satisfy `P`.
- `Act.Plays P view m` says that `m` plays, on the arbiter that `view` finds in its state.

Every operation of the arbiter plays, except that the line may be cut only while no gesture is
open.  A relay cancels all gestures before it cuts the line.
-/

namespace WindowRelay

/-! ## Kinds of effects -/

/-- The warnings of a session that was not ended by its owner. -/
def Warning.isLeak : Warning → Bool
  | .capabilityDropped | .closedWithOpenCapabilities => true
  | _ => false

/-- Callbacks that concern no session and that any attached state allows. -/
def Callback.isPlain {K : Type} : Callback K → Bool
  | .closed | .mouseMotion _ | .beginDrag _ _ _ | .beginScroll _ _ => false
  | .drag _ _ | .scroll _ _ => false
  | _ => true

/-- The effects of an operation on a text. -/
def Effect.isAside {K : Type} : Effect K → Bool
  | .callback _ => false
  | .access _ => true
  | .warning w => !w.isLeak

theorem Effect.callbacks_of_asides {K : Type} {es : List (Effect K)}
    (h : ∀ e ∈ es, e.isAside = true) : Effect.callbacks es = [] := by
  refine List.filterMap_eq_nil_iff.2 fun e he => ?_
  cases e with
  | callback c => simpa [Effect.isAside] using h _ he
  | access _ => rfl
  | warning _ => rfl

namespace Arbiter

variable {K : Type} {a b c : Arbiter K} {es fs : List (Effect K)} {P Q : Effect K → Prop}

/-! ## States after a move -/

def hear (a : Arbiter K) (l : Listener K) : Arbiter K :=
  { a with dispatcher := { a.dispatcher with listener := l } }

/-- The next session and the next token are handed out. -/
def enter (a : Arbiter K) : Arbiter K :=
  { a with
    dispatcher := { a.dispatcher with ledger := a.dispatcher.ledger.enter }
    lastToken := a.lastToken + 1 }

def leave (a : Arbiter K) : Arbiter K :=
  { a with dispatcher := { a.dispatcher with ledger := a.dispatcher.ledger.leave } }

def cutLine (a : Arbiter K) : Arbiter K :=
  { a with dispatcher := { a.dispatcher with attached := false } }

def withDrag (a : Arbiter K) (s : DragSession) : Arbiter K :=
  { a with drag := { a.drag with session := some s } }

def withScroll (a : Arbiter K) (s : ScrollSession) : Arbiter K :=
  { a with scroll := { a.scroll with session := some s } }

/-- The token of the gesture that opens next. -/
def token (a : Arbiter K) : GestureToken :=
  ⟨a.lastToken + 1⟩

/-- The capability of the session that opens next. -/
def capability (a : Arbiter K) (kind : SessionKind) : Capability kind :=
  ⟨a.dispatcher.window, a.dispatcher.ledger.opened⟩

/-! ## Moves -/

inductive Move : Arbiter K → List (Effect K) → Arbiter K → Prop
  | tell {a : Arbiter K} (c : Callback K) (plain : c.isPlain = true)
      (attached : a.dispatcher.attached = true) : Move a [.callback c] a
  | remark {a : Arbiter K} (w : Warning) (harmless : w.isLeak = false) : Move a [.warning w] a
  | adapt {a : Arbiter K} (l : Listener K) : Move a [] (a.hear l)
  | edit {a : Arbiter K} (l : Listener K) (es : List (Effect K))
      (attached : a.dispatcher.attached = true) (asides : ∀ e ∈ es, e.isAside = true) :
      Move a es (a.hear l)
  | mouseMotion {a : Arbiter K} (p : Point K) (attached : a.dispatcher.attached = true)
      (idle : a.drag.session = none) : Move a [.callback (.mouseMotion p)] a
  | beginDrag {a : Arbiter K} (p : Point K) (button : MouseButton)
      (attached : a.dispatcher.attached = true) (idle : a.drag.session = none) :
      Move a [.callback (.beginDrag a.dispatcher.ledger.opened p button)]
        { a.enter with
          drag := Slot.install ⟨a.token, a.capability .drag, Mask.single button⟩ a.token }
  | dragMotion {a : Arbiter K} {s : DragSession} (p : Point K)
      (isOpen : a.drag.session = some s) :
      Move a [.callback (.drag s.capability.session (.motion p))] a
  | mouseDown {a : Arbiter K} {s : DragSession} (p : Point K) (button : MouseButton)
      (isOpen : a.drag.session = some s) (fresh : s.buttons.has button = false) :
      Move a [.callback (.drag s.capability.session (.mouseDown p button))]
        (a.withDrag { s with buttons := s.buttons.insert button })
  | mouseUp {a : Arbiter K} {s : DragSession} (p : Point K) (button : MouseButton)
      (isOpen : a.drag.session = some s) (held : s.buttons.has button = true)
      (more : (s.buttons.erase button).isEmpty = false) :
      Move a [.callback (.drag s.capability.session (.mouseUp p button))]
        (a.withDrag { s with buttons := s.buttons.erase button })
  | lastUp {a : Arbiter K} {s : DragSession} (p : Point K) (button : MouseButton)
      (isOpen : a.drag.session = some s) (held : s.buttons.has button = true)
      (last : (s.buttons.erase button).isEmpty = true) :
      Move a
        [.callback (.drag s.capability.session (.mouseUp p button)),
          .callback (.drag s.capability.session (.ended .release))]
        { a.leave with drag := Slot.ended .release s.token }
  | cancelDrag {a : Arbiter K} {s : DragSession} (isOpen : a.drag.session = some s) :
      Move a [.callback (.drag s.capability.session (.ended .cancel))]
        { a.leave with drag := Slot.ended .cancel s.token }
  | beginScroll {a : Arbiter K} (p : Point K) (attached : a.dispatcher.attached = true)
      (idle : a.scroll.session = none) :
      Move a [.callback (.beginScroll a.dispatcher.ledger.opened p)]
        { a.enter with
          scroll := Slot.install ⟨a.token, a.capability .scroll, .tracking, none⟩ a.token }
  | scrollMotion {a : Arbiter K} {s : ScrollSession} (precise : Bool) (d v : Delta K) (t : Time)
      (isOpen : a.scroll.session = some s) (moving : s.stage ≠ .lifted) :
      Move a [.callback (.scroll s.capability.session (.motion precise d v))]
        (a.withScroll (s.moved t))
  | lift {a : Arbiter K} {s : ScrollSession} (isOpen : a.scroll.session = some s)
      (tracking : s.stage = .tracking) : Move a [] (a.withScroll { s with stage := .lifted })
  | momentum {a : Arbiter K} {s : ScrollSession} (isOpen : a.scroll.session = some s)
      (lifted : s.stage = .lifted) :
      Move a [.callback (.scroll s.capability.session .startMomentum)]
        (a.withScroll { s with stage := .momentum })
  | releaseScroll {a : Arbiter K} {s : ScrollSession} (isOpen : a.scroll.session = some s) :
      Move a
        [.callback (.scroll s.capability.session .finish),
          .callback (.scroll s.capability.session (.ended .release))]
        { a.leave with scroll := Slot.ended .release s.token }
  | cancelScroll {a : Arbiter K} {s : ScrollSession} (isOpen : a.scroll.session = some s) :
      Move a [.callback (.scroll s.capability.session (.ended .cancel))]
        { a.leave with scroll := Slot.ended .cancel s.token }
  | cut {a : Arbiter K} (attached : a.dispatcher.attached = true) (noDrag : a.drag.session = none)
      (noScroll : a.scroll.session = none) :
      Move a
        (.callback .closed ::
          if a.dispatcher.ledger.outstanding != 0 then [.warning .closedWithOpenCapabilities]
          else [])
        a.cutLine

/-- A sequence of moves, each with effects that satisfy `P`. -/
inductive Play (P : Effect K → Prop) : Arbiter K → List (Effect K) → Arbiter K → Prop
  | nil (a : Arbiter K) : Play P a [] a
  | cons {a b c : Arbiter K} {es fs : List (Effect K)} (first : Move a es b)
      (fits : ∀ e ∈ es, P e) (rest : Play P b fs c) : Play P a (es ++ fs) c

namespace Play

theorem single (h : Move a es b) (fits : ∀ e ∈ es, P e) : Play P a es b := by
  simpa using cons h fits (.nil b)

theorem trans (h : Play P a es b) (h' : Play P b fs c) : Play P a (es ++ fs) c := by
  induction h with
  | nil a =>
      exact h'
  | cons first fits _ ih =>
      rw [List.append_assoc]
      exact .cons first fits (ih h')

theorem mono (h : Play P a es b) (hPQ : ∀ e, P e → Q e) : Play Q a es b := by
  induction h with
  | nil a =>
      exact .nil a
  | cons first fits _ ih =>
      exact .cons first (fun e he => hPQ e (fits e he)) ih

/-- What every move keeps holds after a play. -/
theorem invariant {Inv : Arbiter K → Prop} (h : Play P a es b)
    (keeps : ∀ {a es b}, Move a es b → Inv a → Inv b) (ha : Inv a) : Inv b := by
  induction h with
  | nil a =>
      exact ha
  | cons first _ _ ih =>
      exact ih (keeps first ha)

theorem effects (h : Play P a es b) : ∀ e ∈ es, P e := by
  induction h with
  | nil a =>
      simp
  | cons _ fits _ ih =>
      intro e he
      rcases List.mem_append.1 he with he | he
      · exact fits e he
      · exact ih e he

end Play

end Arbiter

end WindowRelay

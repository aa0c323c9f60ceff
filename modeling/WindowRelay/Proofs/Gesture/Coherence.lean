import Mathlib.Logic.Function.Basic
import WindowRelay.Proofs.Gesture.Book
import WindowRelay.Proofs.Gesture.Playing

/-!
# Coherence — what every move of the arbiter keeps

- `Arbiter.Coherent`: the ledger counts the open slots, and a cut line leaves no gesture open.
- `Arbiter.Play.follows`: the callbacks of a play are in order, from the book of the first state
  to the book of the last.
- `Arbiter.Play.no_leak`: a play that starts in a coherent state gives no leak warning.
-/

namespace WindowRelay

namespace Arbiter

variable {K : Type} {a b : Arbiter K} {es : List (Effect K)} {P : Effect K → Prop}

/-! ## The book of an arbiter -/

/-- The number of the open session of a kind. -/
def session? (a : Arbiter K) : SessionKind → Option Nat
  | .drag => a.drag.session.map (·.capability.session)
  | .scroll => a.scroll.session.map (·.capability.session)

def book (a : Arbiter K) : Book :=
  ⟨a.dispatcher.ledger.opened, a.session?⟩

/-- A book is read off the count of sessions and the two slots. -/
theorem book_eq {book : Book} (hopened : a.dispatcher.ledger.opened = book.opened)
    (hdrag : a.session? .drag = book.current .drag)
    (hscroll : a.session? .scroll = book.current .scroll) : a.book = book := by
  have hcurrent : a.session? = book.current := by
    funext kind
    cases kind with
    | drag => exact hdrag
    | scroll => exact hscroll
  rw [Arbiter.book, hopened, hcurrent]

theorem book_withDrag {s s' : DragSession} (h : a.drag.session = some s)
    (hs : s'.capability = s.capability) : (a.withDrag s').book = a.book := by
  refine book_eq rfl ?_ rfl
  simp [book, session?, withDrag, h, hs]

theorem book_withScroll {s s' : ScrollSession} (h : a.scroll.session = some s)
    (hs : s'.capability = s.capability) : (a.withScroll s').book = a.book := by
  refine book_eq rfl rfl ?_
  simp [book, session?, withScroll, h, hs]

theorem book_openDrag (token : GestureToken) (buttons : ButtonSet) :
    ({ a.enter with
        drag := Slot.install ⟨token, a.capability .drag, buttons⟩ token } : Arbiter K).book =
      a.book.enter ⟨.drag, a.dispatcher.ledger.opened⟩ :=
  book_eq rfl rfl rfl

theorem book_openScroll (token : GestureToken) :
    ({ a.enter with
        scroll := Slot.install ⟨token, a.capability .scroll, .tracking, none⟩ token } :
        Arbiter K).book =
      a.book.enter ⟨.scroll, a.dispatcher.ledger.opened⟩ :=
  book_eq rfl rfl rfl

theorem book_endDrag (how : Ending) (token : GestureToken) (n : Nat) :
    ({ a.leave with drag := Slot.ended how token } : Arbiter K).book = a.book.leave ⟨.drag, n⟩ :=
  book_eq rfl rfl rfl

theorem book_endScroll (how : Ending) (token : GestureToken) (n : Nat) :
    ({ a.leave with scroll := Slot.ended how token } : Arbiter K).book =
      a.book.leave ⟨.scroll, n⟩ :=
  book_eq rfl rfl rfl

theorem book_current_drag {s : DragSession} (h : a.drag.session = some s) :
    a.book.current .drag = some s.capability.session := by
  simp [book, session?, h]

theorem book_current_scroll {s : ScrollSession} (h : a.scroll.session = some s) :
    a.book.current .scroll = some s.capability.session := by
  simp [book, session?, h]

/-! ## Callbacks in order -/

/-- The callbacks of a move are in order. -/
theorem Move.follows (h : Move a es b) : a.book.Follows (Effect.callbacks es) b.book := by
  cases h with
  | tell c plain attached =>
      refine .single (.other ?_ ?_ ?_)
      · cases c <;> first | rfl | simp [Callback.isPlain] at plain
      · cases c <;> first | rfl | simp [Callback.isPlain] at plain
      · rintro p rfl
        simp [Callback.isPlain] at plain
  | remark w harmless =>
      exact .nil a.book
  | adapt l =>
      exact .nil a.book
  | edit l es attached asides =>
      -- Asides are no callbacks, so the book has nothing to enter.
      rw [Effect.callbacks_of_asides asides]
      exact .nil a.book
  | mouseMotion p attached idle =>
      refine .single (.other rfl rfl fun _ _ => ?_)
      simp [book, session?, idle]
  | beginDrag p button attached idle =>
      rw [book_openDrag]
      exact .single (.opening rfl rfl (by simp [book, session?, idle]))
  | dragMotion p isOpen =>
      exact .single (.calling rfl rfl (book_current_drag isOpen))
  | mouseDown p button isOpen fresh =>
      rw [book_withDrag isOpen]
      · exact .single (.calling rfl rfl (book_current_drag isOpen))
      · rfl
  | mouseUp p button isOpen held more =>
      rw [book_withDrag isOpen]
      · exact .single (.calling rfl rfl (book_current_drag isOpen))
      · rfl
  | lastUp p button isOpen held last =>
      rw [book_endDrag .release _ _]
      exact .cons (.calling rfl rfl (book_current_drag isOpen))
        (.single (.ending rfl (book_current_drag isOpen)))
  | cancelDrag isOpen =>
      rw [book_endDrag .cancel _ _]
      exact .single (.ending rfl (book_current_drag isOpen))
  | beginScroll p attached idle =>
      rw [book_openScroll]
      exact .single (.opening rfl rfl (by simp [book, session?, idle]))
  | scrollMotion precise d v t isOpen moving =>
      rw [book_withScroll isOpen]
      · exact .single (.calling rfl rfl (book_current_scroll isOpen))
      · rfl
  | lift isOpen tracking =>
      rw [book_withScroll isOpen]
      · exact .nil a.book
      · rfl
  | momentum isOpen lifted =>
      rw [book_withScroll isOpen]
      · exact .single (.calling rfl rfl (book_current_scroll isOpen))
      · rfl
  | releaseScroll isOpen =>
      rw [book_endScroll .release _ _]
      exact .cons (.calling rfl rfl (book_current_scroll isOpen))
        (.single (.ending rfl (book_current_scroll isOpen)))
  | cancelScroll isOpen =>
      rw [book_endScroll .cancel _ _]
      exact .single (.ending rfl (book_current_scroll isOpen))
  | cut attached noDrag noScroll =>
      -- The warning, if there is one, is no callback either.
      have hcalls : Effect.callbacks (K := K)
          (.callback .closed ::
            if a.dispatcher.ledger.outstanding != 0 then [.warning .closedWithOpenCapabilities]
            else []) = [.closed] := by
        split <;> rfl
      rw [hcalls]
      exact .single (.other rfl rfl (by simp))

theorem Play.follows (h : Play P a es b) : a.book.Follows (Effect.callbacks es) b.book := by
  induction h with
  | nil a =>
      exact .nil a.book
  | cons first _ _ ih =>
      rw [Effect.callbacks_append]
      exact first.follows.append ih

/-! ## Coherent states -/

/-- How many gestures are open. -/
def openSlots (a : Arbiter K) : Nat :=
  [SessionKind.drag, .scroll].countP a.isActive

theorem openSlots_le_two (a : Arbiter K) : a.openSlots ≤ 2 :=
  List.countP_le_length

theorem openSlots_eq (a : Arbiter K) :
    a.openSlots = a.drag.session.isSome.toNat + a.scroll.session.isSome.toNat := by
  cases hdrag : a.drag.session <;> cases hscroll : a.scroll.session <;>
    simp [openSlots, isActive, owner, hdrag, hscroll]

theorem length_sessions (a : Arbiter K) : a.book.sessions.length = a.openSlots := by
  rw [openSlots_eq]
  cases hdrag : a.drag.session <;> cases hscroll : a.scroll.session <;>
    simp [Book.sessions, book, session?, hdrag, hscroll]

theorem openSlots_eq_zero :
    a.openSlots = 0 ↔ a.drag.session = none ∧ a.scroll.session = none := by
  rw [openSlots_eq]
  cases a.drag.session <;> cases a.scroll.session <;> simp

@[simp]
theorem openSlots_hear (a : Arbiter K) (l : Listener K) : (a.hear l).openSlots = a.openSlots := by
  simp only [openSlots_eq, hear]

theorem openSlots_withDrag {s s' : DragSession} (h : a.drag.session = some s) :
    (a.withDrag s').openSlots = a.openSlots := by
  simp [openSlots_eq, withDrag, h]

theorem openSlots_withScroll {s s' : ScrollSession} (h : a.scroll.session = some s) :
    (a.withScroll s').openSlots = a.openSlots := by
  simp [openSlots_eq, withScroll, h]

/-- The ledger counts the open gestures, and none is open after the line is cut. -/
structure Coherent (a : Arbiter K) : Prop where
  balanced : a.dispatcher.ledger.outstanding = a.openSlots
  hushed : a.dispatcher.attached = false → a.openSlots = 0

namespace Coherent

theorem initial (window : WindowId) (l : Listener K) :
    (ofDispatcher (Dispatcher.attach window l)).Coherent where
  balanced := rfl
  hushed := by
    intro _
    rfl

theorem steady (ha : a.Coherent) (hledger : b.dispatcher.ledger = a.dispatcher.ledger)
    (hline : b.dispatcher.attached = a.dispatcher.attached) (hslots : b.openSlots = a.openSlots) :
    b.Coherent where
  balanced := by
    rw [hledger, hslots, ha.balanced]
  hushed := by
    rw [hline, hslots]
    exact ha.hushed

theorem entered (ha : a.Coherent) (hledger : b.dispatcher.ledger = a.dispatcher.ledger.enter)
    (hline : b.dispatcher.attached = true) (hslots : b.openSlots = a.openSlots + 1) :
    b.Coherent where
  balanced := by
    rw [hledger, hslots, ← ha.balanced]
    rfl
  hushed := by
    simp [hline]

theorem left (ha : a.Coherent) (hledger : b.dispatcher.ledger = a.dispatcher.ledger.leave)
    (hline : b.dispatcher.attached = a.dispatcher.attached)
    (hslots : b.openSlots = a.openSlots - 1) : b.Coherent where
  balanced := by
    rw [hledger, hslots, ← ha.balanced]
    rfl
  hushed := by
    intro hcut
    rw [hline] at hcut
    rw [hslots, ha.hushed hcut]

theorem attached_of_drag {s : DragSession} (h : a.Coherent)
    (hdrag : a.drag.session = some s) : a.dispatcher.attached = true := by
  by_contra hcut
  have hvacant := openSlots_eq_zero.1 (h.hushed (by simpa using hcut))
  rw [hvacant.1] at hdrag
  cases hdrag

end Coherent

theorem Move.coherent (h : Move a es b) (ha : a.Coherent) : b.Coherent := by
  cases h with
  | tell c plain attached =>
      exact ha
  | remark w harmless =>
      exact ha
  | adapt l =>
      exact ha.steady rfl rfl (openSlots_hear a l)
  | edit l es attached asides =>
      exact ha.steady rfl rfl (openSlots_hear a l)
  | mouseMotion p attached idle =>
      exact ha
  | beginDrag p button attached idle =>
      refine ha.entered rfl attached ?_
      simp [openSlots_eq, enter, Slot.install, idle, Nat.add_comm]
  | dragMotion p isOpen =>
      exact ha
  | mouseDown p button isOpen fresh =>
      exact ha.steady rfl rfl (openSlots_withDrag isOpen)
  | mouseUp p button isOpen held more =>
      exact ha.steady rfl rfl (openSlots_withDrag isOpen)
  | lastUp p button isOpen held last =>
      refine ha.left rfl rfl ?_
      simp [openSlots_eq, leave, Slot.ended, isOpen]
  | cancelDrag isOpen =>
      refine ha.left rfl rfl ?_
      simp [openSlots_eq, leave, Slot.ended, isOpen]
  | beginScroll p attached idle =>
      refine ha.entered rfl attached ?_
      simp [openSlots_eq, enter, Slot.install, idle]
  | scrollMotion precise d v t isOpen moving =>
      exact ha.steady rfl rfl (openSlots_withScroll isOpen)
  | lift isOpen tracking =>
      exact ha.steady rfl rfl (openSlots_withScroll isOpen)
  | momentum isOpen lifted =>
      exact ha.steady rfl rfl (openSlots_withScroll isOpen)
  | releaseScroll isOpen =>
      refine ha.left rfl rfl ?_
      simp [openSlots_eq, leave, Slot.ended, isOpen]
  | cancelScroll isOpen =>
      refine ha.left rfl rfl ?_
      simp [openSlots_eq, leave, Slot.ended, isOpen]
  | cut attached noDrag noScroll =>
      -- The cut is the move that the second half of coherence is about.
      have hslots : a.openSlots = 0 := openSlots_eq_zero.2 ⟨noDrag, noScroll⟩
      exact ⟨ha.balanced, fun _ => hslots⟩

theorem Play.coherent (h : Play P a es b) (ha : a.Coherent) : b.Coherent :=
  h.invariant Move.coherent ha

/-! ## No leaks -/

theorem Move.no_leak (h : Move a es b) (ha : a.Coherent) :
    ∀ w, .warning w ∈ es → w.isLeak = false := by
  cases h with
  | remark w harmless =>
      simpa using harmless
  | edit l es attached asides =>
      intro w hw
      simpa [Effect.isAside] using asides _ hw
  | cut attached noDrag noScroll =>
      -- No gesture is open at the cut, so by the balance no session is.
      have hnothing : a.dispatcher.ledger.outstanding = 0 := by
        rw [ha.balanced]
        exact openSlots_eq_zero.2 ⟨noDrag, noScroll⟩
      simp [hnothing]
  | _ =>
      simp

theorem Play.no_leak (h : Play P a es b) (ha : a.Coherent) :
    ∀ w, .warning w ∈ es → w.isLeak = false := by
  -- Each move of the play finds a coherent state and leaves one for the next.
  induction h with
  | nil a =>
      simp
  | cons first _ _ ih =>
      intro w hw
      rcases List.mem_append.1 hw with hw | hw
      · exact first.no_leak ha w hw
      · exact ih (first.coherent ha) w hw

/-! ## The line -/

theorem Move.attached (h : Move a es b) (hline : ∀ e ∈ es, e.cutsLine = false) :
    b.dispatcher.attached = a.dispatcher.attached := by
  cases h with
  | cut attached noDrag noScroll => simp [Effect.cutsLine] at hline
  | _ => rfl

theorem Play.attached (h : Play P a es b) (hline : ∀ e, P e → e.cutsLine = false) :
    b.dispatcher.attached = a.dispatcher.attached := by
  induction h with
  | nil a =>
      rfl
  | cons first fits _ ih =>
      rw [ih, first.attached fun e he => hline e (fits e he)]

/-- No move mends the line. -/
theorem Move.attached_before (h : Move a es b) (hb : b.dispatcher.attached = true) :
    a.dispatcher.attached = true := by
  cases h with
  | cut attached noDrag noScroll => exact attached
  | _ => exact hb

theorem Play.attached_before (h : Play P a es b) (hb : b.dispatcher.attached = true) :
    a.dispatcher.attached = true := by
  induction h with
  | nil a =>
      exact hb
  | cons first _ _ ih =>
      exact first.attached_before (ih hb)

end Arbiter

end WindowRelay

import WindowRelay.Proofs.InputMethods
import WindowRelay.Proofs.Text.Replacing

/-!
# Compositions — a result and a composing text in one message

An input method can commit a part of what it composes and go on with the rest, and tells of both in
one message.  The result takes the place of the target.  The composing text is not told where to go:
it finds its target by the caret that the commit left behind the result.

- `Document.spans_typed_commit`: the target of the step after a commit.
- `Composition.Continues`: a composing text behind a committed one.
- `composing_goes_on_behind_the_result`: what a message with both texts leaves, also where its
  result is refused.
-/

namespace WindowRelay

/-- A commit leaves its caret as the target of the next step. -/
theorem Document.spans_typed_commit {d : Document} {before inside after : Text}
    (h : Text.Spans d.text d.target before inside after) {t : Text}
    (ht : Text.isInsertable t = true) :
    Text.Spans (d.typed (.commit t)).text (d.typed (.commit t)).target (before ++ t) [] after := by
  have hcaret : (ByteRange.caret (Text.byteLength (before ++ t))).sorted =
      .caret (Text.byteLength (before ++ t)) := if_pos (Nat.le_refl _)
  rw [typed_commit h ht, target, Option.getD_none, hcaret]
  refine ⟨?_, rfl, ?_⟩
  · rw [List.append_nil]
  · rw [List.append_nil]
    rfl

namespace Win32
namespace Composition

open InputMethod

variable {K : Type} {e : Editor K} {m : Composition} {before inside after : Text}

/-! ## The cursor -/

/-- What stands in front of the cursor. -/
def shown (m : Composition) : Text :=
  Text.unitTake m.cursorUnits m.composing

/-- What stands behind it. -/
def hidden (m : Composition) : Text :=
  Text.unitDrop m.cursorUnits m.composing

theorem composing_eq (m : Composition) : m.composing = m.shown ++ m.hidden :=
  (Text.unitTake_append_unitDrop _ _).symm

/-- A cursor that is told is clamped to the text, and rounded down in front of a pair. -/
theorem roundsTo_shown {p : Nat} (htold : m.parts.has .cursor = true) (hp : m.cursor = some p) :
    Text.RoundsTo m.composing p (Text.unitLength m.shown) := by
  have hshown : m.shown = Text.unitTake p m.composing := by
    rw [shown, cursorUnits, if_pos htold, hp, Option.getD_some,
      Text.unitTake_min (Nat.le_refl _)]
  rw [hshown]
  exact Text.roundsTo_unitTake p m.composing

/-- Otherwise the cursor is at the end. -/
theorem hidden_eq_nil (h : m.parts.has .cursor = true → m.cursor = none) : m.hidden = [] := by
  have hend : m.cursorUnits = Text.unitLength m.composing := by
    cases htold : m.parts.has .cursor with
    | true => simp [cursorUnits, htold, h htold]
    | false => simp [cursorUnits, htold]
  have hall : m.shown = m.composing := by
    rw [shown, hend, Text.unitTake_eq_self (Nat.le_refl _)]
  have hcut := m.composing_eq
  rw [hall] at hcut
  exact List.append_right_eq_self.1 hcut.symm

/-! ## The two steps -/

/-- The composing text of a message, in the place of the target behind a committed text. -/
structure Continues (m : Composition) (d : Document) (committed : Text) (d' : Document) :
    Prop where
  text : ∃ before after, Text.take? d.target.start d.text = some before ∧
    Text.drop? d.target.stop d.text = some after ∧
    d'.text = before ++ committed ++ m.composing ++ after
  composition : d'.composition =
    if m.composing = [] then none
    else some ⟨d.target.start + Text.byteLength committed,
      d.target.start + Text.byteLength committed + Text.byteLength m.composing⟩
  caret : ∃ shown hidden, m.composing = shown ++ hidden ∧
    d'.selection =
      .caret (d.target.start + Text.byteLength committed + Text.byteLength shown) ∧
    (∀ p, m.parts.has .cursor = true → m.cursor = some p →
      Text.RoundsTo m.composing p (Text.unitLength shown)) ∧
    ((m.parts.has .cursor = true → m.cursor = none) → hidden = [])

/-- The document with a composing text between two others. -/
def between (m : Composition) (before after : Text) : Document :=
  .composing before m.composing after (.caret (Text.byteLength (before ++ m.shown)))

theorem continues_between {d : Document} (h : Text.Spans d.text d.target before inside after)
    (committed : Text) : m.Continues d committed (m.between (before ++ committed) after) where
  text := ⟨before, after, h.take?_start, h.drop?_stop, rfl⟩
  composition := by
    simp only [between, Document.composing, Text.byteLength_append, h.start]
  caret := by
    refine ⟨m.shown, m.hidden, m.composing_eq, ?_, fun _ => roundsTo_shown, hidden_eq_nil⟩
    simp only [between, Document.composing, Text.byteLength_append, h.start]

/-- The message without its result. -/
def withoutResult (m : Composition) : Composition :=
  { m with parts := m.parts.erase .result }

theorem performs_composing (hvalid : e.document.Valid)
    (h : Text.Spans e.document.text e.document.target before inside after) :
    Editing.Performs (setComposingText m.composing ⟨m.cursorUnits, 0⟩ none) e ()
      (m.between before after) := by
  have hcaret : (bytesWithin ⟨m.cursorUnits, 0⟩ m.composing).shift (Text.byteLength before) =
      .caret (Text.byteLength (before ++ m.shown)) := by
    rw [bytesWithin_cursor, Text.byteLength_append]
    rfl
  rw [between, ← hcaret]
  exact Typing.performs_compose hvalid h m.composing _

theorem applyComposition_withoutResult (hasComposing : m.parts.has .composing = true) :
    Window.applyComposition (K := K) m.withoutResult =
      setComposingText m.composing ⟨m.cursorUnits, 0⟩ none := by
  have hcomposing : (m.parts.erase .result).has .composing = true := by
    rw [Mask.has_erase_of_ne m.parts (by decide), hasComposing]
  have hcursor : m.withoutResult.cursorUnits = m.cursorUnits := by
    rw [cursorUnits, cursorUnits, withoutResult, Mask.has_erase_of_ne m.parts (by decide)]
  simp [Window.applyComposition, Editing.doWhen, withoutResult, hcomposing, ← hcursor]

theorem applyComposition_both (hasResult : m.parts.has .result = true)
    (hasComposing : m.parts.has .composing = true) :
    Window.applyComposition (K := K) m =
      (Typing.commit m.result).request >>= fun _ => Window.applyComposition m.withoutResult := by
  rw [applyComposition_withoutResult hasComposing]
  simp [Window.applyComposition, Editing.doWhen, hasResult, hasComposing, Typing.request]

variable (hasResult : m.parts.has .result = true) (hasComposing : m.parts.has .composing = true)

include hasComposing in
theorem performs_withoutResult (hvalid : e.document.Valid)
    (h : Text.Spans e.document.text e.document.target before inside after) :
    Editing.Performs (Window.applyComposition m.withoutResult) e ()
      (m.between before after) := by
  rw [applyComposition_withoutResult hasComposing]
  exact performs_composing hvalid h

include hasResult hasComposing in
theorem performs_accepted (hvalid : e.document.Valid)
    (h : Text.Spans e.document.text e.document.target before inside after)
    (accepted : Text.isInsertable m.result = true) :
    Editing.Performs (Window.applyComposition m) e () (m.between (before ++ m.result) after) := by
  have hcommitted : (e.document.typed (.commit m.result)).Valid := hvalid.typed _
  rw [applyComposition_both hasResult hasComposing]
  refine (Typing.performs_request (.commit m.result) hvalid).bind ?_
  exact performs_withoutResult hasComposing hcommitted (Document.spans_typed_commit h accepted)

include hasResult hasComposing in
/-- A result that is refused leaves nothing but a complaint. -/
theorem outcome_refused (refused : Text.isInsertable m.result = false) (e : Editor K) :
    let alone := (Window.applyComposition m.withoutResult).outcome e
    (Window.applyComposition m).outcome e =
      ⟨alone.value, alone.state, .warning .controlCharacterRefused :: alone.effects⟩ := by
  intro alone
  have hcommit : (Typing.commit m.result).request.outcome e =
      ⟨.ok (), e, [.warning .controlCharacterRefused]⟩ := by
    change ((fun _ => ()) <$> insertText m.result none).outcome e = _
    rw [Editing.outcome_map, outcome_insertText_refused refused]
    rfl
  rw [applyComposition_both hasResult hasComposing]
  exact Editing.outcome_bind hcommit

/-- A message comes to what it does to the editor. -/
theorem run_step [Scalar K] {w : Window K} (he : w.relay.editor? = some e) (m : Composition) :
    let inner := (Window.applyComposition m).outcome e
    (Window.step (.composition m)).run w =
      ⟨(inner.value.map fun _ => .handled 0).map .response,
        { w with relay := w.relay.withEditor inner.state }, inner.effects⟩ := by
  simp only [Window.step, Window.imeComposition, Window.relaying, Action.run_map,
    Action.run_within, Relay.run_request _ _ _ he, Editing.outcome_map]

theorem step_performs [Scalar K] {w : Window K} (he : w.relay.editor? = some e) {d : Document}
    (h : Editing.Performs (Window.applyComposition m) e () d) :
    let run := (Window.step (.composition m)).run w
    run.value = .ok (.response (.handled 0)) ∧ run.state.relay.document? = some d := by
  intro run
  simp only [run, run_step he, h.value, h.state]
  exact ⟨rfl, Relay.document?_withEditor he _⟩

end Composition
end Win32

/-! ## The main statement -/

/-- The result takes the place of the composition, or of the selection when there is none, and the
composition is the composing text behind it, with the caret where the message says.  A result with
a control character in it is refused, and then the message does what it would do without it. -/
theorem composing_goes_on_behind_the_result {K : Type} [Scalar K] (w : Win32.Window K)
    {d : Document} (valid : d.Valid) (hw : w.relay.document? = some d) {m : Win32.Composition}
    (hasResult : m.parts.has .result = true) (hasComposing : m.parts.has .composing = true) :
    let refused := ∃ c ∈ m.result, Text.IsControl c ∧ c ≠ '\r'
    let run := (Win32.Window.step (.composition m)).run w
    let alone := (Win32.Window.step (.composition m.withoutResult)).run w
    run.value = .ok (.response (.handled 0)) ∧
      (¬ refused → ∃ d', run.state.relay.document? = some d' ∧ m.Continues d m.result d') ∧
      (refused →
        run = ⟨alone.value, alone.state, .warning .controlCharacterRefused :: alone.effects⟩ ∧
          ∃ d', run.state.relay.document? = some d' ∧ m.Continues d [] d') := by
  intro refused run alone
  rcases Option.map_eq_some_iff.1 hw with ⟨e, he, rfl⟩
  rcases valid.covers_target.exists_spans with ⟨before, inside, after, hspans⟩
  have hrefused : refused ↔ Text.isInsertable m.result = false := by
    rw [← Bool.not_eq_true, Text.isInsertable_iff]
    simp [refused]
  cases haccepted : Text.isInsertable m.result with
  | true =>
      have hno : ¬ refused := by
        simp [hrefused, haccepted]
      rcases Win32.Composition.step_performs he
        (Win32.Composition.performs_accepted hasResult hasComposing valid hspans haccepted)
        with ⟨hvalue, hdocument⟩
      exact ⟨hvalue,
        fun _ => ⟨_, hdocument, Win32.Composition.continues_between hspans m.result⟩,
        fun hyes => absurd hyes hno⟩
  | false =>
      -- The editor is as it was when the composing text comes to it.
      have hrun : run =
          ⟨alone.value, alone.state, .warning .controlCharacterRefused :: alone.effects⟩ := by
        simp only [run, alone, Win32.Composition.run_step he,
          Win32.Composition.outcome_refused hasResult hasComposing haccepted e]
      rcases Win32.Composition.step_performs he
        (Win32.Composition.performs_withoutResult hasComposing valid hspans)
        with ⟨hvalue, hdocument⟩
      have hcontinues : m.Continues e.document [] (m.between (before ++ []) after) :=
        Win32.Composition.continues_between hspans []
      rw [List.append_nil] at hcontinues
      rw [hrun]
      exact ⟨hvalue, fun hno => absurd (hrefused.2 haccepted) hno,
        fun _ => ⟨rfl, _, hdocument, hcontinues⟩⟩

/-- The cursor splits the pair at the end of the composing text.  With a tabulator in the result
only the composing text is taken. -/
theorem composing_goes_on_behind_a_result :
    let d : Document := ⟨['x', '日', 'y'], ⟨4, 1⟩, none⟩
    let listener : Listener Float :=
      { Listener.deaf with editor := some ⟨d, GridLayout.standard.toLayout⟩ }
    let w := (Win32.Window.attach (.detached ⟨1⟩) Attributes.standard listener 96).state
    let parts : Mask Win32.CompositionPart := .ofList [.result, .composing, .cursor]
    let message (result : Text) : Win32.Composition := ⟨parts, result, ['é', '😀'], some 2⟩
    let run (result : Text) := (Win32.Window.step (.composition (message result))).run w
    d.Valid ∧ w.relay.document? = some d ∧ parts.has .result = true ∧
      parts.has .composing = true ∧
      (∃ d', (run ['字']).state.relay.document? = some d' ∧
        d'.text = ['x', '字', 'é', '😀', 'y'] ∧ d'.composition = some ⟨4, 10⟩ ∧
        d'.selection = .caret 6) ∧
      ∃ d', (run ['字', '\t']).state.relay.document? = some d' ∧
        d'.text = ['x', 'é', '😀', 'y'] ∧ d'.composition = some ⟨1, 7⟩ := by
  intro d listener w parts message run
  have hvalid : d.Valid := ⟨by decide, by decide, by simp [d]⟩
  have hresult : parts.has .result = true := by
    decide
  have hcomposing : parts.has .composing = true := by
    decide
  have haccepted : ¬ ∃ c ∈ ['字'], Text.IsControl c ∧ c ≠ '\r' := by
    simp only [List.mem_singleton, exists_eq_left]
    decide
  have hrefused : ∃ c ∈ ['字', '\t'], Text.IsControl c ∧ c ≠ '\r' :=
    ⟨'\t', by simp, by decide, by decide⟩
  rcases composing_goes_on_behind_the_result (m := message ['字']) w hvalid rfl hresult
    hcomposing with ⟨-, hyes, -⟩
  rcases composing_goes_on_behind_the_result (m := message ['字', '\t']) w hvalid rfl hresult
    hcomposing with ⟨-, -, hno⟩
  rcases hyes haccepted with ⟨d₁, hd₁, hboth⟩
  rcases hno hrefused with ⟨-, d₂, hd₂, halone⟩
  refine ⟨hvalid, rfl, hresult, hcomposing, ⟨d₁, hd₁, ?_, hboth.composition, ?_⟩,
    d₂, hd₂, ?_, halone.composition⟩
  · rcases hboth.text with ⟨before, after, hbefore, hafter, htext⟩
    obtain rfl : ['x'] = before := Option.some.inj hbefore
    obtain rfl : ['y'] = after := Option.some.inj hafter
    exact htext
  · rcases hboth.caret with ⟨shown, hidden, hcut, hselection, hrounds, -⟩
    have hunits : Text.unitLength shown = 1 :=
      (hrounds 2 (by decide) rfl).unique (Text.roundsTo_unitTake 2 ['é', '😀'])
    have hshown : shown = ['é'] := by
      calc
        shown = Text.unitTake (Text.unitLength shown) (shown ++ hidden) :=
              (Text.unitTake_unitLength _ _).symm
        _ = Text.unitTake 1 ['é', '😀'] := by rw [hunits, ← hcut]
        _ = ['é'] := by decide
    rw [hselection, hshown]
    rfl
  · rcases halone.text with ⟨before, after, hbefore, hafter, htext⟩
    obtain rfl : ['x'] = before := Option.some.inj hbefore
    obtain rfl : ['y'] = after := Option.some.inj hafter
    exact htext

end WindowRelay

import WindowRelay.Proofs.Text.Splicing
import WindowRelay.Text.GridLayout

/-!
# Composing — a composition leaves no trace

However a text was composed, the commit at the end puts it where the first step found the
composition or the selection, and changes nothing else.  The main statement is
`commit_after_preedits`.

The invariant is `Document.Frames before after`: the document is `before`, then what the next
commit or composition would replace, then `after`.  A step whose composition becomes empty drops
it, and then the caret takes its place in the invariant.
-/

namespace WindowRelay

/-- What the next commit or composition replaces stands between these two texts. -/
def Document.Frames (d : Document) (before after : Text) : Prop :=
  ∃ inside, Text.Spans d.text d.target before inside after

/-- One step of a composition. -/
structure Preedit where
  text : Text
  selection : TextRange
  replacement : Option TextRange
  deriving DecidableEq, Repr

namespace InputMethod

open Editing

variable {K : Type}

def compose (p : Preedit) : Act K (Editor K) (Except Fault (Reply K)) :=
  step (.setComposingText p.text p.selection p.replacement)

/-- A run of steps in which a range is replaced only while there is a composition to count it
from. -/
def Admissible (e : Editor K) : List Preedit → Prop
  | [] => True
  | p :: ps =>
      (p.replacement = none ∨ e.document.composition.isSome) ∧
        Admissible ((compose p).run e).state ps

instance decidableAdmissible (e : Editor K) (ps : List Preedit) : Decidable (Admissible e ps) :=
  match ps with
  | [] => .isTrue trivial
  | _ :: ps => @instDecidableAnd _ _ _ (decidableAdmissible _ ps)

/-! ## One step -/

theorem frames_composing (before : Text) {left text right : Text} (after : Text)
    (selection : TextRange) :
    (Document.composing before (left ++ text ++ right) after
      ((bytesWithin selection text).shift (Text.byteLength (before ++ left)))).Frames
        before after := by
  by_cases hempty : left ++ text ++ right = []
  · -- Nothing is left to compose, so the selection is a caret at the end of `before`.
    have hnil : left = [] ∧ text = [] ∧ right = [] := by
      simpa using hempty
    rcases hnil with ⟨rfl, rfl, rfl⟩
    refine ⟨[], ?_⟩
    have hselection : bytesWithin selection [] = ⟨0, 0⟩ := rfl
    refine ⟨by simp [Document.composing], ?_, ?_⟩
    · simp [Document.target, Document.composing, hselection, ByteRange.shift, ByteRange.sorted]
    · simp [Document.target, Document.composing, hselection, ByteRange.shift, ByteRange.sorted]
  · refine ⟨left ++ text ++ right, ?_⟩
    have htarget : (Document.composing before (left ++ text ++ right) after
        ((bytesWithin selection text).shift (Text.byteLength (before ++ left)))).target =
        ⟨Text.byteLength before, Text.byteLength (before ++ (left ++ text ++ right))⟩ := by
      rw [Document.target, Document.composing, if_neg hempty]
      rfl
    rw [htarget]
    exact ⟨rfl, rfl, rfl⟩

theorem compose_keeps_frame {e : Editor K} (hvalid : e.document.Valid) {before after : Text}
    (hframes : e.document.Frames before after) (p : Preedit)
    (hp : p.replacement = none ∨ e.document.composition.isSome) :
    ∃ d, Performs (answer (.setComposingText p.text p.selection p.replacement)) e .done d ∧
      d.Valid ∧ d.Frames before after := by
  rcases hframes with ⟨inside, hinside⟩
  rcases composingRanges_spans hvalid p.replacement with
    ⟨before', left, middle, right, after', houter, hinner⟩
  -- Without a composition there is no replacement, so no range is looked up in the whole text.
  have hr : ∀ r ∈ p.replacement, e.document.composition = none →
      r.start ≤ TextRange.limit := by
    intro r hmem hnone
    rcases hp with hreplacement | hsome
    · simp [hreplacement] at hmem
    · simp [hnone] at hsome
  have hperforms := performs_setComposingText hvalid hr p.text p.selection houter hinner
  -- The step composes in the target of the document, and a range cuts a text in one way only.
  have hsame : before = before' ∧ after = after' := by
    rw [composingRanges_fst_eq_target hp] at houter
    exact hinside.pieces_eq houter
  rcases hsame with ⟨rfl, rfl⟩
  refine ⟨_, hperforms.bind (.pure _ _), ?_, frames_composing before after p.selection⟩
  refine valid_composing ?_
  exact covers_shift_bytesWithin p.selection (before ++ left) p.text (right ++ after)
    (by simp [Document.composing])

/-! ## Any number of steps -/

theorem compose_run_keeps_frame (ps : List Preedit) {e : Editor K} (hvalid : e.document.Valid)
    {before after : Text} (hframes : e.document.Frames before after) (hps : Admissible e ps) :
    let run := (Action.replay compose ps).run e
    (∀ v ∈ run.value, v = .ok .done) ∧ run.state.document.Valid ∧
      run.state.document.Frames before after := by
  -- By induction on the steps: each finds a valid document with the frame of the first one.
  induction ps generalizing e with
  | nil =>
      exact ⟨by simp, hvalid, hframes⟩
  | cons p ps ih =>
      rcases hps with ⟨hp, hrest⟩
      rcases compose_keeps_frame hvalid hframes p hp with ⟨d, hperforms, hd, hdframes⟩
      have hvalue : ((compose p).run e).value = .ok .done := hperforms.value
      have hstate : ((compose p).run e).state = { e with document := d } := hperforms.state
      rw [hstate] at hrest
      rcases ih hd hdframes hrest with ⟨hvalues, hfinal⟩
      simp only [Action.run_replay_cons, hvalue, hstate]
      refine ⟨?_, hfinal⟩
      intro v hv
      rcases List.mem_cons.1 hv with rfl | hv
      · rfl
      · exact hvalues v hv

/-- After any steps of a composition, a commit puts its text in the place of what was composed or
selected before the first of them, and the caret after it. -/
theorem commit_after_preedits (e : Editor K) (hvalid : e.document.Valid) (ps : List Preedit)
    (hps : Admissible e ps) (text : Text) (htext : Text.isInsertable text = true) :
    let target := e.document.composition.getD e.document.selection.sorted
    let composed := (Action.replay compose ps).run e
    let committed := (step (.insertText text none)).run composed.state
    (∀ v ∈ composed.value, v = .ok .done) ∧
      committed.value = .ok (.accepted true) ∧
      some committed.state.document.text =
        Text.replace? target.start target.stop text e.document.text ∧
      committed.state.document.composition = none ∧
      committed.state.document.selection =
        ByteRange.caret (target.start + Text.byteLength text) := by
  rcases hvalid.covers_target.exists_spans with ⟨before, inside, after, hspans⟩
  rcases compose_run_keeps_frame ps hvalid ⟨inside, hspans⟩ hps with
    ⟨hvalues, hcomposed, hframes⟩
  rcases hframes with ⟨inside', hspans'⟩
  let last := ((Action.replay compose ps).run e).state
  have hinsert : Performs (insertText text none) last true
      ⟨before ++ text ++ after, ByteRange.caret (Text.byteLength (before ++ text)), none⟩ :=
    performs_insertText (by simp) htext hspans'
  have hcommit : Performs (answer (.insertText text none)) last (.accepted true)
      ⟨before ++ text ++ after, ByteRange.caret (Text.byteLength (before ++ text)), none⟩ :=
    hinsert.bind (.pure _ _)
  have hstate : ((step (.insertText text none)).run last).state = _ := hcommit.state
  -- The frame after the steps is the frame before them, so the commit does what it would have done
  -- then.
  have hreplace : Text.replace? e.document.target.start e.document.target.stop text
      e.document.text = some (before ++ text ++ after) := hspans.replace? text
  have hcaret : e.document.target.start + Text.byteLength text =
      Text.byteLength (before ++ text) := by
    rw [hspans.start, Text.byteLength_append]
  refine ⟨hvalues, hcommit.value, ?_, ?_, ?_⟩
  · rw [hstate]
    exact hreplace.symm
  · rw [hstate]
  · rw [hstate]
    exact congrArg ByteRange.caret hcaret.symm

/-- A backward selection of three bytes is composed over, in steps of which one counts its range
from the composition and one leaves nothing. -/
theorem commit_after_preedits_over_selection :
    let e : Editor Float := ⟨⟨['x', '日', 'y'], ⟨4, 1⟩, none⟩, GridLayout.standard.toLayout⟩
    let preedits : List Preedit :=
      [⟨['か'], ⟨1, 0⟩, none⟩, ⟨['ん', '字'], ⟨0, 2⟩, some ⟨0, 1⟩⟩, ⟨[], ⟨0, 0⟩, none⟩,
        ⟨['z'], ⟨1, 0⟩, none⟩]
    let composed := (Action.replay compose preedits).run e
    let committed := (step (.insertText ['漢', '字'] none)).run composed.state
    e.document.Valid ∧ Admissible e preedits ∧ Text.isInsertable ['漢', '字'] = true ∧
      committed.state.document.text = ['x', '漢', '字', 'y'] ∧
      committed.state.document.composition = none ∧
      committed.state.document.selection = ByteRange.caret 7 := by
  intro e preedits composed committed
  have hvalid : e.document.Valid := ⟨by decide, by decide, by simp [e]⟩
  have hadmissible : Admissible e preedits := by decide
  have htext : Text.isInsertable ['漢', '字'] = true := by decide
  have hcommit := commit_after_preedits e hvalid preedits hadmissible ['漢', '字'] htext
  have htarget : e.document.composition.getD e.document.selection.sorted = ⟨1, 4⟩ := by decide
  have hreplace : Text.replace? 1 4 ['漢', '字'] ['x', '日', 'y'] =
      some ['x', '漢', '字', 'y'] := by decide
  have hcaret : 1 + Text.byteLength ['漢', '字'] = 7 := by decide
  simp only [htarget, hcaret] at hcommit
  rcases hcommit with ⟨-, -, hwritten, hcomposition, hselection⟩
  simp only [committed, composed]
  exact ⟨hvalid, hadmissible, htext, Option.some.inj (hwritten.trans hreplace), hcomposition,
    hselection⟩

end InputMethod
end WindowRelay

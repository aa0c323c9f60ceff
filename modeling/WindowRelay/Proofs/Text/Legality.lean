import WindowRelay.Proofs.Text.Asking

/-!
# Legality — what a document may rely on

The host of a text is promised that it is never asked for anything it cannot give.  The main
statement is `requests_of_calls_are_legal`: on a valid document, any calls in any order meet no
fault, every request is legal for the document as it is at that moment, and the document is valid
again after every call.

The ranges of the calls are arbitrary ranges of 64-bit offsets.  They may overflow when start and
length are added, lie past the end of the text, or split a pair.  The host may lay its text out
anew between two calls.
-/

namespace WindowRelay

/-- Both numbers of the range are offsets of a 64-bit machine. -/
def TextRange.Fits (r : TextRange) : Prop :=
  r.start ≤ TextRange.limit ∧ r.len ≤ TextRange.limit

instance (r : TextRange) : Decidable r.Fits :=
  inferInstanceAs (Decidable (_ ∧ _))

namespace InputMethod

open Editing

variable {K : Type}

/-- The ranges that a call names. -/
def Call.ranges : Call K → List TextRange
  | .insertText _ replacement => replacement.toList
  | .setComposingText _ selection replacement => selection :: replacement.toList
  | .textInRange r | .boundingRect r => [r]
  | .clearComposingText | .selectedRange | .composingRange | .characterIndex _ => []

def Call.Fits (c : Call K) : Prop :=
  ∀ r ∈ c.ranges, r.Fits

instance (c : Call K) : Decidable c.Fits :=
  inferInstanceAs (Decidable (∀ r ∈ c.ranges, r.Fits))

/-- A call on a text that may have been laid out anew since the last one. -/
def relaidStep (turn : Layout K × Call K) : Act K (Editor K) (Except Fault (Reply K)) := do
  modify fun e => { e with layout := turn.1 }
  step turn.2

/-! ## One call -/

section Calls

variable {e : Editor K}

theorem performs_insertText_call (hvalid : e.document.Valid) (text : Text)
    {replacement : Option TextRange} (hr : ∀ r ∈ replacement, r.Fits) :
    ∃ yes d, Performs (insertText text replacement) e yes d ∧ d.Valid := by
  cases ht : Text.isInsertable text with
  | false =>
      exact ⟨false, e.document, performs_insertText_refused ht e, hvalid⟩
  | true =>
      have hcovers := covers_insertionRange hvalid replacement
      rcases hcovers.exists_spans with ⟨before, inside, after, hspans⟩
      have hfits : ∀ r ∈ replacement, r.start ≤ TextRange.limit := by
        intro r hmem
        exact (hr r hmem).1
      exact ⟨true, _, performs_insertText hfits ht hspans, valid_committed before text after⟩

theorem performs_setComposingText_call (hvalid : e.document.Valid) (text : Text)
    (selection : TextRange) {replacement : Option TextRange} (hr : ∀ r ∈ replacement, r.Fits) :
    ∃ d, Performs (setComposingText text selection replacement) e () d ∧ d.Valid := by
  rcases composingRanges_spans hvalid replacement with
    ⟨before, left, middle, right, after, houter, hinner⟩
  have hfits : ∀ r ∈ replacement, e.document.composition = none → r.start ≤ TextRange.limit := by
    intro r hmem _
    exact (hr r hmem).1
  refine ⟨_, performs_setComposingText hvalid hfits text selection houter hinner, ?_⟩
  refine valid_composing ?_
  exact covers_shift_bytesWithin selection (before ++ left) text (right ++ after)
    (by simp [Document.composing])

theorem performs_selectedRange_call (hvalid : e.document.Valid) :
    ∃ r, Performs selectedRange e r e.document := by
  rcases hvalid.covers_sorted.exists_spans with ⟨before, inside, after, hspans⟩
  exact ⟨_, performs_selectedRange hspans⟩

theorem performs_composingRange_call (hvalid : e.document.Valid) :
    ∃ r, Performs composingRange e r e.document := by
  cases hc : e.document.composition with
  | none =>
      exact ⟨none, performs_composingRange_none hc⟩
  | some r =>
      rcases (hvalid.composition r hc).exists_spans with ⟨before, inside, after, hspans⟩
      exact ⟨_, performs_composingRange_some hc hspans⟩

theorem performs_textInRange_call (e : Editor K) {r : TextRange} (hr : r.Fits) :
    ∃ answer, Performs (textInRange r) e answer e.document := by
  rcases located_spans r e.document.text with ⟨before, inside, after, rest, hspans, _, _⟩
  exact ⟨_, performs_textInRange hr.1 hspans⟩

theorem performs_boundingRect_call (hlayout : e.layout.Sound) {r : TextRange} (hr : r.Fits) :
    ∃ answer, Performs (boundingRect r) e answer e.document := by
  rcases covers_located r e.document with ⟨hle, hstart, hstop⟩
  rcases performs_boundingRect hr.1 (hlayout _ _ hle hstart hstop) with ⟨_, _, _, _, _, _, _, h⟩
  exact ⟨_, h⟩

/-- A call on a valid document answers and leaves a valid document, by legal requests only. -/
theorem performs_answer (hvalid : e.document.Valid) (hlayout : e.layout.Sound) {c : Call K}
    (hc : c.Fits) : ∃ reply d, Performs (answer c) e reply d ∧ d.Valid := by
  cases c with
  | insertText text replacement =>
      have hr : ∀ r ∈ replacement, r.Fits := by
        intro r hmem
        exact hc r (by simpa [Call.ranges] using hmem)
      rcases performs_insertText_call hvalid text hr with ⟨yes, d, h, hd⟩
      exact ⟨_, d, h.bind (.pure _ _), hd⟩
  | setComposingText text selection replacement =>
      have hr : ∀ r ∈ replacement, r.Fits := by
        intro r hmem
        exact hc r (by simpa [Call.ranges] using Or.inr hmem)
      rcases performs_setComposingText_call hvalid text selection hr with ⟨d, h, hd⟩
      exact ⟨_, d, h.bind (.pure _ _), hd⟩
  | clearComposingText =>
      have h : Performs clearComposingText e () { e.document with composition := none } :=
        performs_setComposition (r := none) trivial
      refine ⟨_, _, h.bind (.pure _ _), ?_⟩
      exact ⟨hvalid.selection_start, hvalid.selection_stop, by simp⟩
  | selectedRange =>
      rcases performs_selectedRange_call hvalid with ⟨r, h⟩
      exact ⟨_, _, h.bind (.pure _ _), hvalid⟩
  | composingRange =>
      rcases performs_composingRange_call hvalid with ⟨r, h⟩
      exact ⟨_, _, h.bind (.pure _ _), hvalid⟩
  | textInRange r =>
      have hr : r.Fits := hc r (by simp [Call.ranges])
      rcases performs_textInRange_call e hr with ⟨answer, h⟩
      exact ⟨_, _, h.bind (.pure _ _), hvalid⟩
  | boundingRect r =>
      have hr : r.Fits := hc r (by simp [Call.ranges])
      rcases performs_boundingRect_call hlayout hr with ⟨answer, h⟩
      exact ⟨_, _, h.bind (.pure _ _), hvalid⟩
  | characterIndex p =>
      exact ⟨_, _, (performs_characterIndex p e).bind (.pure _ _), hvalid⟩

end Calls

/-! ## Any number of calls -/

theorem dialogue_of_replay (turns : List (Layout K × Call K))
    (hlayouts : ∀ turn ∈ turns, turn.1.Sound) (hcalls : ∀ turn ∈ turns, turn.2.Fits)
    {e : Editor K} (hvalid : e.document.Valid) :
    let run := (Action.replay relaidStep turns).run e
    (∀ v ∈ run.value, ∃ reply, v = .ok reply) ∧
      Access.Dialogue e.document (Effect.accesses run.effects) run.state.document ∧
      run.state.document.Valid := by
  -- The invariant is that the document is valid; the layout is a new one before every call.
  induction turns generalizing e with
  | nil =>
      exact ⟨by simp, .done _, hvalid⟩
  | cons turn turns ih =>
      have hlayout : turn.1.Sound := hlayouts turn (by simp)
      have hcall : turn.2.Fits := hcalls turn (by simp)
      rcases performs_answer (e := ⟨e.document, turn.1⟩) hvalid hlayout hcall with
        ⟨reply, d, h, hd⟩
      have hstep : (relaidStep turn).run e =
          ⟨.ok reply, ⟨d, turn.1⟩, ((answer turn.2).outcome ⟨e.document, turn.1⟩).effects⟩ :=
        h.outcome_eq
      rcases ih (fun t ht => hlayouts t (by simp [ht])) (fun t ht => hcalls t (by simp [ht]))
        (e := ⟨d, turn.1⟩) hd with ⟨hvalues, hdialogue, hfinal⟩
      simp only [Action.run_replay_cons, hstep, Effect.accesses_append]
      refine ⟨?_, h.dialogue.append hdialogue, hfinal⟩
      intro v hv
      rcases List.mem_cons.1 hv with rfl | hv
      · exact ⟨reply, rfl⟩
      · exact hvalues v hv

/-- No call ever meets a fault, and every request is legal at its moment: its offsets are within
the text, they are boundaries where that is asked for, and its ranges are in order.  The document
is changed by these requests alone, and is valid after every call. -/
theorem requests_of_calls_are_legal (e : Editor K) (hvalid : e.document.Valid)
    (turns : List (Layout K × Call K)) (hlayouts : ∀ turn ∈ turns, turn.1.Sound)
    (hcalls : ∀ turn ∈ turns, turn.2.Fits) :
    let run := (Action.replay relaidStep turns).run e
    (∀ v ∈ run.value, ∃ reply, v = .ok reply) ∧
      (∀ before a after, Effect.accesses run.effects = before ++ a :: after →
        let d := before.foldl Access.after e.document
        a.Legal d ∧ ∀ n ∈ a.offsets, n ≤ d.length) ∧
      run.state.document = (Effect.accesses run.effects).foldl Access.after e.document ∧
      run.state.document.Valid := by
  rcases dialogue_of_replay turns hlayouts hcalls hvalid with ⟨hvalues, hdialogue, hfinal⟩
  refine ⟨hvalues, ?_, hdialogue.eq_foldl, hfinal⟩
  intro before a after hsplit
  rw [hsplit] at hdialogue
  have hlegal := hdialogue.legal_of_split
  exact ⟨hlegal, fun n hn => hlegal.offset_le hn⟩

/-- Ranges that end beyond all offsets, over a text with a pair in it and a backward selection. -/
theorem requests_of_far_ranges_are_legal :
    let layout := GridLayout.standard.toLayout
    let e : Editor Float := ⟨⟨['a', '😀', 'b'], ⟨5, 1⟩, some ⟨1, 5⟩⟩, layout⟩
    let turns : List (Layout Float × Call Float) :=
      [(layout, .setComposingText ['é'] ⟨0, 1⟩ (some ⟨1, TextRange.limit⟩)),
        (layout, .boundingRect ⟨2, TextRange.limit⟩),
        (layout, .insertText ['c'] (some ⟨TextRange.limit, TextRange.limit⟩))]
    let run := (Action.replay relaidStep turns).run e
    e.document.Valid ∧ (∀ turn ∈ turns, turn.1.Sound) ∧ (∀ turn ∈ turns, turn.2.Fits) ∧
      (∀ v ∈ run.value, ∃ reply, v = .ok reply) ∧
      (∀ before a after, Effect.accesses run.effects = before ++ a :: after →
        let d := before.foldl Access.after e.document
        a.Legal d ∧ ∀ n ∈ a.offsets, n ≤ d.length) ∧
      run.state.document.Valid := by
  intro layout e turns run
  have hvalid : e.document.Valid := by
    refine ⟨by decide, by decide, ?_⟩
    intro r hr
    cases hr
    decide
  have hlayouts : ∀ turn ∈ turns, turn.1.Sound := by
    intro turn hturn
    have hlayout : turn.1 = layout := by
      simp only [turns, List.mem_cons, List.not_mem_nil, or_false] at hturn
      rcases hturn with rfl | rfl | rfl <;> rfl
    rw [hlayout]
    exact GridLayout.toLayout_sound rfl
  have hcalls : ∀ turn ∈ turns, turn.2.Fits := by
    intro turn hturn
    simp only [turns, List.mem_cons, List.not_mem_nil, or_false] at hturn
    rcases hturn with rfl | rfl | rfl <;> decide
  rcases requests_of_calls_are_legal e hvalid turns hlayouts hcalls with
    ⟨hvalues, hlegal, -, hfinal⟩
  exact ⟨hvalid, hlayouts, hcalls, hvalues, hlegal, hfinal⟩

end InputMethod
end WindowRelay

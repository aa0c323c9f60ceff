import WindowRelay.Proofs.Text.Rounding
import WindowRelay.Text.GridLayout

/-!
# Replacing — what the two writing operations do to a document

A commit and a step of a composition take a range out of the text and put a text in its place.  Here
the document before is compared with the document after, and with the requests in between:

* `Text.IsControl` — the characters that may not be inserted, and `Text.isInsertable_iff`, by which
  looking at the bytes of a text finds these characters and no others;
* `CommitsIn`, `insertion_is_all_or_nothing` — a commit is refused as a whole or done as a whole;
* `ComposesIn`, `composing_edits_only_its_target` — a step of a composition changes nothing around
  the range it composes in, and in that range nothing but the part it replaces.
-/

namespace WindowRelay

/-! ## Control characters -/

namespace Text

/-- A control character of ASCII. -/
def IsControl (c : Char) : Prop :=
  c.toNat < 32 ∨ c.toNat = 127

instance (c : Char) : Decidable (IsControl c) :=
  inferInstanceAs (Decidable (_ ∨ _))

/-- All bytes of a longer encoding have the highest bit set. -/
theorem utf8EncodeChar_cases (c : Char) :
    (c.toNat < 128 ∧ String.utf8EncodeChar c = [UInt8.ofNat c.toNat]) ∨
      (128 ≤ c.toNat ∧ ∀ b ∈ String.utf8EncodeChar c, 128 ≤ b.toNat) := by
  have hcode : c.val.toNat = c.toNat := rfl
  have hmost : c.toNat < 0x110000 := by
    have hvalid : c.toNat < 0xD800 ∨ 0xDFFF < c.toNat ∧ c.toNat < 0x110000 := c.valid
    omega
  unfold String.utf8EncodeChar
  simp only [hcode]
  -- A longer encoding adds what tells its length to the first byte and 128 to the others.
  split_ifs with hone
  · exact .inl ⟨by omega, rfl⟩
  all_goals
    refine .inr ⟨by omega, ?_⟩
    simp only [List.mem_cons, List.not_mem_nil, or_false, forall_eq_or_imp, forall_eq,
      UInt8.toNat_ofNat']
    omega

/-- What is asked of each byte of a text. -/
theorem allowedByte_iff (b : UInt8) :
    (!isControlByte b || b == 13) = true ↔ (b.toNat < 32 ∨ b.toNat = 127 → b.toNat = 13) := by
  have hcontrol : isControlByte b = true ↔ b.toNat < 32 ∨ b.toNat = 127 := by
    simp [isControlByte, UInt8.lt_iff_toNat_lt, ← UInt8.toNat_inj]
  have hreturn : b = 13 ↔ b.toNat = 13 := by
    simp [← UInt8.toNat_inj]
  rw [← hcontrol, ← hreturn]
  cases isControlByte b <;> simp

theorem allowedBytes_iff (c : Char) :
    (∀ b ∈ String.utf8EncodeChar c, (!isControlByte b || b == 13) = true) ↔
      (IsControl c → c = '\r') := by
  rcases utf8EncodeChar_cases c with ⟨hone, hbytes⟩ | ⟨hmore, hbytes⟩
  · have hcode : (UInt8.ofNat c.toNat).toNat = c.toNat := by
      rw [UInt8.toNat_ofNat']
      omega
    have hreturn : c = '\r' ↔ c.toNat = 13 := Char.toNat_inj.symm
    simp only [hbytes, List.mem_singleton, forall_eq, allowedByte_iff, hcode, hreturn, IsControl]
  · -- None of the bytes is one of ASCII, and neither is the character.
    have hcontrol : ¬ IsControl c := by
      unfold IsControl
      omega
    simp only [hcontrol, false_imp_iff, iff_true]
    intro b hb
    have hhigh := hbytes b hb
    rw [allowedByte_iff]
    omega

/-- A text is refused for its control characters: no byte of any other character is taken for
one. -/
theorem isInsertable_iff (t : Text) :
    isInsertable t = true ↔ ∀ c ∈ t, IsControl c → c = '\r' := by
  simp only [isInsertable, bytes, List.all_flatMap, List.all_eq_true, allowedBytes_iff]

end Text

namespace InputMethod

open Editing

variable {K : Type} {e : Editor K}

/-! ## Commits -/

/-- A commit replaces what an explicit range stands for, or else the composition, or else the
selection. -/
def CommitsIn (e : Editor K) (replacement : Option TextRange) (target : ByteRange) : Prop :=
  match replacement with
  | some r => Locates e r target
  | none => target = e.document.composition.getD e.document.selection.sorted

theorem commitsIn_insertionRange {replacement : Option TextRange}
    (hr : ∀ r ∈ replacement, r.start ≤ TextRange.limit) (e : Editor K) :
    CommitsIn e replacement (insertionRange e.document replacement) := by
  cases replacement with
  | none =>
      rfl
  | some r =>
      exact locates (hr r rfl) e

/-- A text with a control character in it is refused, and the document is not even looked at.  Any
other text takes the place of its target, the composition ends, and the caret is behind the text. -/
theorem insertion_is_all_or_nothing (e : Editor K) (hvalid : e.document.Valid) (text : Text)
    (replacement : Option TextRange) (hreplacement : ∀ r ∈ replacement, r.Fits) :
    let run := (step (.insertText text replacement)).run e
    let refused := ∃ c ∈ text, Text.IsControl c ∧ c ≠ '\r'
    (run.value = .ok (.accepted false) ↔ refused) ∧
      (refused → run = ⟨.ok (.accepted false), e, [.warning .controlCharacterRefused]⟩) ∧
      (¬ refused → ∃ (target : ByteRange) (before after : Text),
        let caret := ByteRange.caret (target.start + Text.byteLength text)
        CommitsIn e replacement target ∧ target.start ≤ target.stop ∧
          Text.take? target.start e.document.text = some before ∧
          Text.drop? target.stop e.document.text = some after ∧
          run = ⟨.ok (.accepted true),
            { e with document := ⟨before ++ text ++ after, caret, none⟩ }, run.effects⟩ ∧
          Effect.writes run.effects =
            [.replace target text, .setComposition none, .setSelection caret]) := by
  intro run refused
  have hrefused : refused ↔ Text.isInsertable text = false := by
    rw [← Bool.not_eq_true, Text.isInsertable_iff]
    simp [refused]
  cases ht : Text.isInsertable text with
  | false =>
      have hrun : run = ⟨.ok (.accepted false), e, [.warning .controlCharacterRefused]⟩ :=
        outcome_bind (outcome_insertText_refused ht e)
      have hyes : refused := hrefused.2 ht
      exact ⟨by simp [hrun, hyes], fun _ => hrun, fun hno => absurd hyes hno⟩
  | true =>
      have hno : ¬ refused := by
        simp [hrefused, ht]
      have hstart : ∀ r ∈ replacement, r.start ≤ TextRange.limit := fun r hr =>
        (hreplacement r hr).1
      -- Whichever range the target comes from, a valid document is cut at both of its ends.
      rcases (covers_insertionRange hvalid replacement).exists_spans with
        ⟨before, inside, after, hspans⟩
      have hanswer : Writes (answer (.insertText text replacement)) e (.accepted true) _ _ :=
        (writes_insertText hstart ht hspans).bind (.pure _ _)
      have hcaret : Text.byteLength (before ++ text) =
          (insertionRange e.document replacement).start + Text.byteLength text := by
        rw [hspans.start, Text.byteLength_append]
      rw [hcaret] at hanswer
      have hrun := hanswer.toPerforms.outcome_eq
      refine ⟨?_, fun hyes => absurd hyes hno, fun _ => ?_⟩
      · have hvalue : run.value = .ok (.accepted true) := hanswer.value
        simp [hvalue, hno]
      · exact ⟨_, before, after, commitsIn_insertionRange hstart e, hspans.le, hspans.take?_start,
          hspans.drop?_stop, hrun, hanswer.writes⟩

/-- The range starts inside a pair and goes on past the text, with a composition in front of it.  A
tabulator is refused, and a carriage return is not. -/
theorem insertion_is_all_or_nothing_in_a_pair :
    let e : Editor Float :=
      ⟨⟨['a', '😀', 'b'], ⟨6, 1⟩, some ⟨0, 1⟩⟩, GridLayout.standard.toLayout⟩
    let r : TextRange := ⟨2, 9⟩
    let refused := (step (.insertText ['é', '\t'] (some r))).run e
    let accepted := (step (.insertText ['日', '\r'] (some r))).run e
    e.document.Valid ∧ (∀ range ∈ some r, range.Fits) ∧
      refused = ⟨.ok (.accepted false), e, [.warning .controlCharacterRefused]⟩ ∧
      accepted.value = .ok (.accepted true) ∧
      accepted.state.document = ⟨['a', '日', '\r'], ByteRange.caret 5, none⟩ := by
  intro e r refused accepted
  have hvalid : e.document.Valid := by decide
  have hfits : ∀ range ∈ some r, range.Fits := by decide
  have hno := insertion_is_all_or_nothing e hvalid ['é', '\t'] (some r) hfits
  have hyes := insertion_is_all_or_nothing e hvalid ['日', '\r'] (some r) hfits
  have hcontrol : ∃ c ∈ ['é', '\t'], Text.IsControl c ∧ c ≠ '\r' :=
    ⟨'\t', by simp, by decide, by decide⟩
  have hnone : ¬ ∃ c ∈ ['日', '\r'], Text.IsControl c ∧ c ≠ '\r' := by
    rintro ⟨c, hc, hcontrol, hreturn⟩
    obtain rfl : c = '日' := by
      simpa [hreturn] using hc
    exact absurd hcontrol (by decide)
  rcases hyes.2.2 hnone with ⟨target, before, after, htarget, -, hbefore, hafter, hrun, -⟩
  have hfound : ((locate r).outcome e).value =
      .ok ⟨⟨1, 6⟩, ⟨1, 3⟩, ['a', '😀', 'b']⟩ := rfl
  obtain rfl : ⟨1, 6⟩ = target := by
    rcases htarget.found with ⟨l, hl, rfl⟩
    rw [hfound] at hl
    cases hl
    rfl
  obtain rfl : ['a'] = before := Option.some.inj hbefore
  obtain rfl : [] = after := Option.some.inj hafter
  exact ⟨hvalid, hfits, hno.2.1 hcontrol, congrArg Outcome.value hrun,
    congrArg (fun o => o.state.document) hrun⟩

/-! ## Steps of a composition -/

/-- A step works in the composition if there is one, or else in what an explicit range stands for,
or else in the selection. -/
def ComposesIn (e : Editor K) (replacement : Option TextRange) (target : ByteRange) : Prop :=
  match e.document.composition, replacement with
  | some composition, _ => target = composition
  | none, some r => Locates e r target
  | none, none => target = e.document.selection.sorted

theorem composesIn_composingRanges {replacement : Option TextRange}
    (hr : ∀ r ∈ replacement, r.start ≤ TextRange.limit) (e : Editor K) :
    ComposesIn e replacement (composingRanges e.document replacement).1 := by
  unfold ComposesIn composingRanges
  cases hc : e.document.composition with
  | none =>
      cases replacement with
      | none =>
          rfl
      | some r =>
          exact locates (hr r rfl) e
  | some composition =>
      cases replacement <;> rfl

/-- A composition is stored for the text it holds, and for no text none. -/
theorem composing_covers (before composed after : Text) (selection : ByteRange) :
    let d := Document.composing before composed after selection
    (composed = [] → d.composition = none) ∧
      (composed ≠ [] → ∃ c, d.composition = some c ∧ c.start = Text.byteLength before ∧
        c.start < c.stop ∧ Text.slice? c.start c.stop d.text = some composed) := by
  intro d
  have hspans : Text.Spans d.text
      ⟨Text.byteLength before, Text.byteLength (before ++ composed)⟩ before composed after :=
    ⟨rfl, rfl, rfl⟩
  refine ⟨fun hempty => if_pos hempty, fun hne => ⟨_, if_neg hne, rfl, ?_, hspans.slice?⟩⟩
  have hpos : Text.byteLength composed ≠ 0 := by
    simpa [Text.byteLength_eq_zero_iff] using hne
  simp only [Text.byteLength_append]
  omega

/-- A step of a composition takes a part out of its target and puts its text there.  All around the
target is as it was, the composition is what the target has become, and the selection is inside the
new text.  Nothing to compose is no composition. -/
theorem composing_edits_only_its_target (e : Editor K) (hvalid : e.document.Valid) (text : Text)
    (selection : TextRange) (replacement : Option TextRange)
    (hreplacement : ∀ r ∈ replacement, r.Fits) :
    let t := e.document.text
    let run := (step (.setComposingText text selection replacement)).run e
    ∃ (target part : ByteRange) (before left right after : Text) (d : Document),
      let composed := left ++ text ++ right
      run = ⟨.ok .done, { e with document := d }, run.effects⟩ ∧
        Effect.writes run.effects =
          [.replace part text, .setComposition d.composition, .setSelection d.selection] ∧
        ComposesIn e replacement target ∧
        (target.start ≤ part.start ∧ part.start ≤ part.stop ∧ part.stop ≤ target.stop) ∧
        (Text.take? target.start t = some before ∧ Text.drop? target.stop t = some after ∧
          d.text = before ++ composed ++ after) ∧
        (Text.slice? target.start part.start t = some left ∧
          Text.slice? part.stop target.stop t = some right) ∧
        (Text.take? part.start t = some (before ++ left) ∧
          Text.drop? part.stop t = some (right ++ after)) ∧
        (composed = [] → d.composition = none) ∧
        (composed ≠ [] → ∃ c, d.composition = some c ∧ c.start = target.start ∧
          c.start < c.stop ∧ Text.slice? c.start c.stop d.text = some composed) ∧
        (∀ c, .access (.setComposition (some c)) ∈ run.effects → c.start < c.stop) ∧
        d.Covers d.selection ∧ part.start ≤ d.selection.start ∧
        d.selection.stop ≤ part.start + Text.byteLength text := by
  intro t run
  have hstart : ∀ r ∈ replacement, r.start ≤ TextRange.limit := fun r hr => (hreplacement r hr).1
  rcases composingRanges_spans hvalid replacement with
    ⟨before, left, middle, right, after, houter, hinner⟩
  let target := (composingRanges e.document replacement).1
  let part := (composingRanges e.document replacement).2
  let selected := bytesWithin selection text
  let d := Document.composing before (left ++ text ++ right) after
    (selected.shift (Text.byteLength (before ++ left)))
  have hanswer : Writes (answer (.setComposingText text selection replacement)) e .done d
      [.replace part text, .setComposition d.composition, .setSelection d.selection] :=
    (writes_setComposingText hvalid (fun r hr _ => hstart r hr) text selection houter
      hinner).bind (.pure _ _)
  have hwrites : Effect.writes run.effects = _ := hanswer.writes
  -- What the step keeps of its target lies before and after the part that it replaces.
  have hleft : Text.Spans t ⟨target.start, part.start⟩ before left (middle ++ right ++ after) :=
    ⟨by simp [t, houter.text], houter.start, hinner.start⟩
  have hright : Text.Spans t ⟨part.stop, target.stop⟩ (before ++ left ++ middle) right after :=
    ⟨by simp [t, houter.text], hinner.stop, by simpa using houter.stop⟩
  rcases composing_covers before (left ++ text ++ right) after
    (selected.shift (Text.byteLength (before ++ left))) with ⟨hnone, hsome⟩
  rw [← houter.start] at hsome
  -- The selection counts from the start of the new text, whatever is kept in front of it.
  have hselected : selected.stop ≤ Text.byteLength text :=
    (spans_bytesWithin selection text).isBoundary_stop.le_byteLength
  refine ⟨target, part, before, left, right, after, d, hanswer.toPerforms.outcome_eq,
    hanswer.writes, composesIn_composingRanges hstart e, ⟨hleft.le, hinner.le, hright.le⟩,
    ⟨houter.take?_start, houter.drop?_stop, rfl⟩, ⟨hleft.slice?, hright.slice?⟩,
    ⟨hinner.take?_start, hinner.drop?_stop⟩, hnone, hsome, ?_, ?_, ?_, ?_⟩
  · intro c hc
    have hwritten : Access.setComposition (some c) ∈ Effect.writes run.effects :=
      Effect.mem_writes hc rfl
    have hstored : some c = d.composition := by
      simpa [hwrites] using hwritten
    -- The one composition that is stored is that of the document in the end.
    by_cases hempty : left ++ text ++ right = []
    · cases hstored.trans (hnone hempty)
    · rcases hsome hempty with ⟨_, hcomposition, -, hlt, -⟩
      cases hstored.trans hcomposition
      exact hlt
  · exact covers_shift_bytesWithin selection (before ++ left) text (right ++ after)
      (by simp [d, Document.composing])
  · calc
      part.start = Text.byteLength (before ++ left) := hinner.start
      _ ≤ Text.byteLength (before ++ left) + selected.start := Nat.le_add_right _ _
  · calc
      Text.byteLength (before ++ left) + selected.stop
          ≤ Text.byteLength (before ++ left) + Text.byteLength text :=
            Nat.add_le_add_left hselected _
      _ = part.start + Text.byteLength text := by rw [hinner.start]

/-- The pair in the middle of a composition is replaced. -/
theorem composing_edits_only_a_pair :
    let e : Editor Float :=
      ⟨⟨['x', 'a', '😀', 'b'], ⟨0, 0⟩, some ⟨1, 7⟩⟩, GridLayout.standard.toLayout⟩
    let r : TextRange := ⟨1, 2⟩
    let run := (step (.setComposingText ['日'] ⟨0, 1⟩ (some r))).run e
    e.document.Valid ∧ (∀ range ∈ some r, range.Fits) ∧
      Effect.writes run.effects =
        [.replace ⟨2, 6⟩ ['日'], .setComposition (some ⟨1, 6⟩), .setSelection ⟨2, 5⟩] ∧
      run.state.document.text = ['x', 'a', '日', 'b'] ∧
      Text.slice? 1 6 run.state.document.text = some ['a', '日', 'b'] := by
  intro e r run
  have hvalid : e.document.Valid := by decide
  have hfits : ∀ range ∈ some r, range.Fits := by decide
  have hwrites : Effect.writes run.effects =
      [.replace ⟨2, 6⟩ ['日'], .setComposition (some ⟨1, 6⟩), .setSelection ⟨2, 5⟩] := by
    decide +kernel
  rcases composing_edits_only_its_target e hvalid ['日'] ⟨0, 1⟩ (some r) hfits with
    ⟨target, part, before, left, right, after, d, hrun, hrequests, htarget, -,
      ⟨hbefore, hafter, htext⟩, ⟨hleft, hright⟩, -, -, hcomposition, -⟩
  -- The requests tell which part was replaced, and what was stored.
  have hsame := hrequests.symm.trans hwrites
  simp only [List.cons.injEq, Access.replace.injEq, Access.setComposition.injEq] at hsame
  rcases hsame with ⟨⟨rfl, -⟩, hstored, -⟩
  obtain rfl : target = ⟨1, 7⟩ := htarget
  obtain rfl : ['x'] = before := Option.some.inj hbefore
  obtain rfl : ['a'] = left := Option.some.inj hleft
  obtain rfl : ['b'] = right := Option.some.inj hright
  obtain rfl : [] = after := Option.some.inj hafter
  have hdocument : run.state.document = d := congrArg (fun o => o.state.document) hrun
  rcases hcomposition (by decide) with ⟨composition, hcomposed, -, -, hslice⟩
  obtain rfl : ⟨1, 6⟩ = composition := Option.some.inj (hstored.symm.trans hcomposed)
  rw [hdocument]
  exact ⟨hvalid, hfits, hwrites, htext, hslice⟩

end InputMethod
end WindowRelay

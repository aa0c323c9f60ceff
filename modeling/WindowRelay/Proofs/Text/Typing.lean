import WindowRelay.Proofs.Text.Composing
import WindowRelay.Proofs.Text.Surrogates

/-!
# Typing — what an input method does to a document

While a text is composed the input method shows what it has so far, with a caret between two of its
characters, and at the end it commits a text.  Here this is said of the document alone, with the
characters counted as such; the requests that do it count UTF-16 units and bytes.

- `Document.typed`: the document after one step.
- `Typing.performs_request`: the requests of a step come to that.
- `Document.typed_again`: what a preedit shows is gone with the next step.
-/

namespace WindowRelay

/-- A step of typing.  The caret of a preedit counts characters of its text. -/
inductive Typing
  | preedit (text : Text) (caret : Nat)
  | commit (text : Text)
  deriving DecidableEq, Repr

/-- Preedits, each with its caret, and the commit that ends them. -/
def Typing.session (preedits : List (Text × Nat)) (text : Text) : List Typing :=
  preedits.map (fun p => .preedit p.1 p.2) ++ [.commit text]

/-- Whether a step leaves a text of its own; a commit that is refused does not. -/
def Typing.writes : Typing → Bool
  | .preedit _ _ => true
  | .commit t => Text.isInsertable t

namespace Document

/-- The text of a document with the target of the next step replaced. -/
def writing (d : Document) (t : Text) : Text :=
  (Text.replace? d.target.start d.target.stop t d.text).getD d.text

def typed (d : Document) : Typing → Document
  | .preedit t caret =>
      ⟨d.writing t, .caret (d.target.start + Text.byteLength (t.take caret)),
        if t = [] then none
        else some ⟨d.target.start, d.target.start + Text.byteLength t⟩⟩
  | .commit t =>
      if Text.isInsertable t then
        ⟨d.writing t, .caret (d.target.start + Text.byteLength t), none⟩
      else d

variable {d : Document} {before inside after : Text}

theorem writing_eq (h : Text.Spans d.text d.target before inside after) (t : Text) :
    d.writing t = before ++ t ++ after := by
  rw [writing, h.replace? t, Option.getD_some]

theorem typed_preedit (h : Text.Spans d.text d.target before inside after) (t : Text)
    (caret : Nat) :
    d.typed (.preedit t caret) =
      .composing before t after (.caret (Text.byteLength (before ++ t.take caret))) := by
  simp only [typed, composing, writing_eq h, h.start, Text.byteLength_append]

theorem typed_commit (h : Text.Spans d.text d.target before inside after) {t : Text}
    (ht : Text.isInsertable t = true) :
    d.typed (.commit t) =
      ⟨before ++ t ++ after, .caret (Text.byteLength (before ++ t)), none⟩ := by
  simp only [typed, ht, if_true, writing_eq h, h.start, Text.byteLength_append]

theorem typed_refused {t : Text} (ht : Text.isInsertable t = false) :
    d.typed (.commit t) = d := by
  simp [typed, ht]

end Document

/-! ## The requests of a step -/

namespace InputMethod

/-- A cursor that splits a pair stands for the caret in front of the pair. -/
theorem bytesWithin_cursor (units : Nat) (t : Text) :
    bytesWithin ⟨units, 0⟩ t = .caret (Text.byteLength (Text.unitTake units t)) := by
  simp only [bytesWithin, Text.unitTake_zero, List.append_nil]
  rfl

/-- The caret in units, looked up in the text, is where the characters say. -/
theorem bytesWithin_caret (t : Text) (caret : Nat) :
    bytesWithin ⟨Text.unitsOfChars caret t, 0⟩ t =
      .caret (Text.byteLength (t.take caret)) := by
  have hfound : Text.unitTake (Text.unitsOfChars caret t) t = t.take caret := by
    calc
      Text.unitTake (Text.unitsOfChars caret t) t
          = Text.unitTake (Text.unitLength (t.take caret)) (t.take caret ++ t.drop caret) := by
            rw [List.take_append_drop]
            rfl
      _ = t.take caret := Text.unitTake_unitLength _ _
  rw [bytesWithin_cursor, hfound]

end InputMethod

namespace Typing

open Editing InputMethod

variable {K : Type} {e : Editor K}

def request : Typing → Editing K Unit
  | .preedit t caret => setComposingText t ⟨Text.unitsOfChars caret t, 0⟩ none
  | .commit t => Functor.discard (insertText t none)

variable {before inside after : Text}

/-- Without a range of its own a composing text goes where the target is. -/
theorem performs_compose (hvalid : e.document.Valid)
    (h : Text.Spans e.document.text e.document.target before inside after) (t : Text)
    (selection : TextRange) :
    Performs (setComposingText t selection none) e ()
      (.composing before t after
        ((bytesWithin selection t).shift (Text.byteLength before))) := by
  have htarget : (composingRanges e.document none).1 = e.document.target :=
    composingRanges_fst_eq_target (.inl rfl)
  have hsame : (composingRanges e.document none).2 = (composingRanges e.document none).1 := by
    unfold composingRanges
    cases e.document.composition <;> rfl
  have houter : Text.Spans e.document.text (composingRanges e.document none).1 before
      ([] ++ inside ++ []) after := by
    simpa [htarget] using h
  have hinner : Text.Spans e.document.text (composingRanges e.document none).2 (before ++ [])
      inside ([] ++ after) := by
    simpa [hsame, htarget] using h
  simpa using performs_setComposingText hvalid (by simp) t selection houter hinner

theorem composing_typed {d : Document}
    (h : Text.Spans d.text d.target before inside after) (t : Text) (caret : Nat) :
    d.typed (.preedit t caret) =
      .composing before t after
        ((bytesWithin ⟨Text.unitsOfChars caret t, 0⟩ t).shift (Text.byteLength before)) := by
  simp [Document.typed_preedit h, bytesWithin_caret, ByteRange.shift, ByteRange.caret]

theorem performs_request (typing : Typing) (hvalid : e.document.Valid) :
    Performs typing.request e () (e.document.typed typing) := by
  rcases hvalid.covers_target.exists_spans with ⟨before, inside, after, hspans⟩
  cases typing with
  | preedit t caret =>
      rw [composing_typed hspans]
      exact performs_compose hvalid hspans t _
  | commit t =>
      cases ht : Text.isInsertable t with
      | true =>
          rw [Document.typed_commit hspans ht]
          exact (performs_insertText (by simp) ht hspans).map _
      | false =>
          rw [Document.typed_refused ht]
          exact (performs_insertText_refused ht e).map _

end Typing

namespace Document

variable {d : Document} {before inside after : Text}

theorem Valid.typed (h : d.Valid) (typing : Typing) : (d.typed typing).Valid := by
  rcases h.covers_target.exists_spans with ⟨before, inside, after, hspans⟩
  cases typing with
  | preedit t caret =>
      rw [Typing.composing_typed hspans]
      apply InputMethod.valid_composing
      exact InputMethod.covers_shift_bytesWithin _ before t after rfl
  | commit t =>
      cases ht : Text.isInsertable t with
      | true =>
          rw [typed_commit hspans ht]
          exact InputMethod.valid_committed before t after
      | false =>
          rw [typed_refused ht]
          exact h

/-- A preedit takes the place of what was there before it, and the next step takes its place. -/
theorem typed_again (h : d.Valid) (t : Text) (caret : Nat) {next : Typing}
    (writes : next.writes = true) : (d.typed (.preedit t caret)).typed next = d.typed next := by
  rcases h.covers_target.exists_spans with ⟨before, inside, after, hspans⟩
  have hframes : (d.typed (.preedit t caret)).Frames before after := by
    have hcomposing : (composing before ([] ++ t ++ []) after
        ((InputMethod.bytesWithin ⟨Text.unitsOfChars caret t, 0⟩ t).shift
          (Text.byteLength (before ++ [])))).Frames before after :=
      InputMethod.frames_composing before after _
    rw [Typing.composing_typed hspans]
    simpa using hcomposing
  rcases hframes with ⟨inside', hspans'⟩
  cases next with
  | preedit t' caret' =>
      rw [typed_preedit hspans', typed_preedit hspans]
  | commit t' =>
      rw [typed_commit hspans' writes, typed_commit hspans writes]

/-- However much was shown before it, the last step is all that is left. -/
theorem foldl_typed_preedits (h : d.Valid) (preedits : List (Text × Nat)) {last : Typing}
    (writes : last.writes = true) :
    ((preedits.map fun p => Typing.preedit p.1 p.2).foldl typed d).typed last =
      d.typed last := by
  induction preedits generalizing d with
  | nil =>
      rfl
  | cons p preedits ih =>
      calc
        _ = (d.typed (.preedit p.1 p.2)).typed last := ih (h.typed _)
        _ = d.typed last := typed_again h p.1 p.2 writes

theorem foldl_typed_session (h : d.Valid) {preedits : List (Text × Nat)} {text : Text} {n : Nat}
    {step : Typing} (last : ((Typing.session preedits text).take n).getLast? = some step)
    (writes : step.writes = true) :
    ((Typing.session preedits text).take n).foldl typed d = d.typed step := by
  -- All steps before the last one are preedits, wherever the session is cut off.
  have hpreedits : ∃ shown : List (Text × Nat), (Typing.session preedits text).take n =
      shown.map (fun p => Typing.preedit p.1 p.2) ++ [step] := by
    by_cases hn : n ≤ preedits.length
    · rw [Typing.session, List.take_append_of_le_length (by simpa using hn),
        ← List.map_take] at last ⊢
      rcases List.getLast?_eq_some_iff.1 last with ⟨earlier, hearlier⟩
      rcases List.map_eq_append_iff.1 hearlier with ⟨shown, rest, -, rfl, -⟩
      exact ⟨shown, hearlier⟩
    · have hall : (Typing.session preedits text).length ≤ n := by
        simp [Typing.session]
        omega
      rw [List.take_of_length_le hall] at last ⊢
      obtain rfl : Typing.commit text = step := by
        simpa [Typing.session] using last
      exact ⟨preedits, rfl⟩
  rcases hpreedits with ⟨shown, hshown⟩
  rw [hshown, List.foldl_append]
  exact foldl_typed_preedits h shown writes

end Document
end WindowRelay

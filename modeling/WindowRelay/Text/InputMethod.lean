import WindowRelay.Text.Editor

/-!
# Input methods

Input methods address text in UTF-16 units, documents in UTF-8 bytes.  This module converts
between the two and gives the composition operations that every toolkit needs:

* `insertText` commits a text, in place of the composition if there is one;
* `setComposingText` replaces the composition, or a part of it, or starts one;
* `clearComposingText` ends the composition and keeps its text;
* `selectedRange`, `composingRange`, `textInRange`, `boundingRect` and `characterIndex` answer
  questions.

A requested range is clamped to the text, and an end that splits a pair of units is rounded down
to the start of the pair.  A query that takes a range answers with the range it used.
-/

namespace WindowRelay
namespace InputMethod

open Editing

variable {K : Type}

/-! ## Converting ranges -/

/-- A requested range in bytes, the range it stands for after clamping and rounding, and a piece
of the text's beginning that holds it. -/
structure Located where
  bytes : ByteRange
  actual : TextRange
  text : Text
  deriving DecidableEq, Repr

/-- A unit takes at most three bytes, so the text up to three times the range's end is enough to
find both ends. -/
def locate (r : TextRange) : Editing K Located := do
  let size ← length
  let aperture ← floor (min (3 * r.stop) size)
  let text ← slice ⟨0, aperture⟩
  let head := Text.findUnit r.start text
  let start ← subtract r.start head.extra
  let rest ← expect (Text.drop? head.offset text)
  let wanted ← subtract r.stop start
  let tail := Text.findUnit wanted rest
  let stop ← subtract r.stop tail.extra
  pure ⟨⟨head.offset, head.offset + tail.offset⟩, TextRange.between start stop, text⟩

/-- The units of a byte range. -/
def toUnits (r : ByteRange) : Editing K TextRange := do
  let text ← slice ⟨0, r.stop⟩
  let before ← expect (Text.take? r.start text)
  let inside ← expect (Text.drop? r.start text)
  pure ⟨Text.unitLength before, Text.unitLength inside⟩

/-- The bytes of a range of units inside a text of its own. -/
def within (r : TextRange) (text : Text) : Editing K ByteRange := do
  let start := (Text.findUnit r.start text).offset
  let rest ← expect (Text.drop? start text)
  pure ⟨start, start + (Text.findUnit r.len rest).offset⟩

/-! ## Writing -/

/-- What a commit replaces. -/
def insertionTarget : Option TextRange → Editing K ByteRange
  | none => do
      let d ← document
      pure (d.composition.getD d.selection.sorted)
  | some r => do
      let d ← document
      warnIf d.composition.isSome .compositionOverridden
      let located ← locate r
      pure located.bytes

/-- Commit a text, end the composition and put the caret after the text.  Answers whether the text
was accepted. -/
def insertText (text : Text) (replacement : Option TextRange) : Editing K Bool :=
  if Text.isInsertable text then do
    let range ← insertionTarget replacement
    replace range text
    setComposition none
    setSelection (ByteRange.caret (range.start + Text.byteLength text))
    pure true
  else do
    warnIf true .controlCharacterRefused
    pure false

/-- The range the composition covers before a step, and the part of it that the step replaces.  A
replacement range counts from the start of the composition if there is one. -/
def composingTarget (replacement : Option TextRange) : Editing K (ByteRange × ByteRange) := do
  let d ← document
  match d.composition, replacement with
  | some composition, none => pure (composition, composition)
  | some composition, some r => do
      let composed ← slice composition
      let part ← within r composed
      pure (composition, part.shift composition.start)
  | none, none => pure (d.selection.sorted, d.selection.sorted)
  | none, some r => do
      let located ← locate r
      pure (located.bytes, located.bytes)

/-- Replace the composition or a part of it, and select a range inside the new text. -/
def setComposingText (text : Text) (selection : TextRange) (replacement : Option TextRange) :
    Editing K Unit := do
  let (composition, range) ← composingTarget replacement
  replace range text
  let kept ← subtract composition.stop range.length
  let composed : ByteRange := ⟨composition.start, kept + Text.byteLength text⟩
  setComposition (if composed.isEmpty then none else some composed)
  let selected ← within selection text
  setSelection (selected.shift range.start)

def clearComposingText : Editing K Unit :=
  setComposition none

/-! ## Asking -/

def selectedRange : Editing K TextRange := do
  let d ← document
  toUnits d.selection.sorted

def composingRange : Editing K (Option TextRange) := do
  let d ← document
  match d.composition with
  | none => pure none
  | some r => do
      let units ← toUnits r
      pure (some units)

def textInRange (r : TextRange) : Editing K (Text × TextRange) := do
  let located ← locate r
  let text ← expect (Text.slice? located.bytes.start located.bytes.stop located.text)
  pure (text, located.actual)

/-- The rectangle of the first line of a range and the part of the range it covers.  An end that
the host reports outside the range is moved to its nearer end. -/
def boundingRect (r : TextRange) : Editing K (Rect K × TextRange) := do
  let located ← locate r
  let (rect, reported) ← bounds located.bytes
  warnIf (!located.bytes.reaches reported) .boundsOutsideRange
  let stop := located.bytes.clamp reported
  let covered ← expect (Text.slice? located.bytes.start stop located.text)
  pure (rect, ⟨located.actual.start, Text.unitLength covered⟩)

def characterIndex (p : Point K) : Editing K (Option Nat) := do
  match ← indexAt p with
  | none => pure none
  | some i => do
      let size ← length
      let offset ← floor (min i size)
      let before ← slice ⟨0, offset⟩
      pure (some (Text.unitLength before))

/-! ## Calls -/

inductive Call (K : Type)
  | insertText (text : Text) (replacement : Option TextRange)
  | setComposingText (text : Text) (selection : TextRange) (replacement : Option TextRange)
  | clearComposingText
  | selectedRange
  | composingRange
  | textInRange (range : TextRange)
  | boundingRect (range : TextRange)
  | characterIndex (position : Point K)
  deriving DecidableEq, Repr

inductive Reply (K : Type)
  | done
  | accepted (yes : Bool)
  | range (r : Option TextRange)
  | text (t : Text) (actual : TextRange)
  | rect (r : Rect K) (actual : TextRange)
  | index (i : Option Nat)
  deriving DecidableEq, Repr

def answer : Call K → Editing K (Reply K)
  | .insertText t r => do
      let yes ← insertText t r
      pure (.accepted yes)
  | .setComposingText t s r => do
      setComposingText t s r
      pure .done
  | .clearComposingText => do
      clearComposingText
      pure .done
  | .selectedRange => do
      let r ← selectedRange
      pure (.range (some r))
  | .composingRange => do
      let r ← composingRange
      pure (.range r)
  | .textInRange r => do
      let (t, actual) ← textInRange r
      pure (.text t actual)
  | .boundingRect r => do
      let (rect, actual) ← boundingRect r
      pure (.rect rect actual)
  | .characterIndex p => do
      let i ← characterIndex p
      pure (.index i)

/-- A call on an editor, with its effects. -/
def step (c : Call K) : Act K (Editor K) (Except Fault (Reply K)) :=
  (answer c).run

end InputMethod
end WindowRelay

import WindowRelay.Text.Range
import WindowRelay.Text.Units

/-!
# Documents

The text an input method edits belongs to the host.  A `Document` holds its text, selection and
composition, all addressed in bytes.  `Access` records one request that was made to it: three that
read at given offsets, and three that write.

A request is legal for a document (`Access.Legal`) when its offsets are character boundaries of
the text and in order; `Access.floor` takes any offset up to the end.
-/

namespace WindowRelay

structure Document where
  text : Text
  selection : ByteRange
  composition : Option ByteRange
  deriving DecidableEq, Repr, Inhabited

namespace Document

/-- A document with the caret at its end. -/
def ofText (t : Text) : Document :=
  ⟨t, ByteRange.caret (Text.byteLength t), none⟩

def length (d : Document) : Nat :=
  Text.byteLength d.text

/-- Both ends are character boundaries and in order. -/
def Covers (d : Document) (r : ByteRange) : Prop :=
  r.start ≤ r.stop ∧ Text.IsBoundary d.text r.start ∧ Text.IsBoundary d.text r.stop

instance (d : Document) (r : ByteRange) : Decidable (d.Covers r) :=
  inferInstanceAs (Decidable (_ ∧ _ ∧ _))

/-- Selection and composition lie on character boundaries, and the composition is in order. -/
structure Valid (d : Document) : Prop where
  selection_start : Text.IsBoundary d.text d.selection.start
  selection_stop : Text.IsBoundary d.text d.selection.stop
  composition : ∀ r ∈ d.composition, d.Covers r

instance (d : Document) : Decidable d.Valid :=
  decidable_of_iff
    (Text.IsBoundary d.text d.selection.start ∧ Text.IsBoundary d.text d.selection.stop ∧
      ∀ r ∈ d.composition, d.Covers r)
    ⟨fun ⟨hstart, hstop, hcomposition⟩ => ⟨hstart, hstop, hcomposition⟩,
      fun ⟨hstart, hstop, hcomposition⟩ => ⟨hstart, hstop, hcomposition⟩⟩

end Document

inductive Access
  | slice (range : ByteRange)
  | floor (offset : Nat)
  | bounds (range : ByteRange)
  | replace (range : ByteRange) (text : Text)
  | setComposition (range : Option ByteRange)
  | setSelection (range : ByteRange)
  deriving DecidableEq, Repr

namespace Access

def isWrite : Access → Bool
  | .slice _ | .floor _ | .bounds _ => false
  | .replace _ _ | .setComposition _ | .setSelection _ => true

def Legal (d : Document) : Access → Prop
  | .slice r | .bounds r | .replace r _ | .setSelection r => d.Covers r
  | .floor n => n ≤ d.length
  | .setComposition none => True
  | .setComposition (some r) => d.Covers r

/-- The document after a request; one that it cannot carry out leaves it as it is. -/
def after (d : Document) : Access → Document
  | .slice _ | .floor _ | .bounds _ => d
  | .replace r t =>
      match Text.replace? r.start r.stop t d.text with
      | some text => { d with text := text }
      | none => d
  | .setComposition r => { d with composition := r }
  | .setSelection r => { d with selection := r }

end Access

end WindowRelay

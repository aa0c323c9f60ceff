import WindowRelay.Effect

/-!
# Editors

An `Editor` is a document together with the answers about its layout that only the host can give:
which rectangle the first line of a range takes up, and which character is at a point.

`Editing` is the monad of operations on an editor.  Every request to the document appears among
its effects, and a request that the document cannot carry out, or an offset that would be
negative, is a `Fault`.  The operations of `WindowRelay.InputMethod` are written with the requests
below and with nothing else.
-/

namespace WindowRelay

/-- The host's answers about a text on the screen. -/
structure Layout (K : Type) where
  /-- The rectangle of the first line of a range, and the end of the part it covers. -/
  bounds : Text → ByteRange → Rect K × Nat
  /-- The offset of the character at a point. -/
  indexAt : Text → Point K → Option Nat

structure Editor (K : Type) where
  document : Document
  layout : Layout K

abbrev Editing (K α : Type) : Type :=
  ExceptT Fault (Action (Effect K) (Editor K)) α

namespace Editing

variable {K : Type}

/-! ## Requests -/

def access (a : Access) : Editing K Unit :=
  ExceptT.lift (Action.emit (.access a))

def warnIf (condition : Bool) (w : Warning) : Editing K Unit :=
  ExceptT.lift (Act.warnIf condition w)

def doWhen (condition : Bool) (m : Editing K Unit) : Editing K Unit :=
  if condition then m else pure ()

def editor : Editing K (Editor K) :=
  ExceptT.lift (fun e => ⟨e, e, []⟩)

def document : Editing K Document := do
  let e ← editor
  pure e.document

def put (d : Document) : Editing K Unit :=
  ExceptT.lift (fun e => ⟨(), { e with document := d }, []⟩)

/-- The value of a step that may be impossible. -/
def expect {α : Type} : Option α → Editing K α
  | some a => pure a
  | none => throw .offBoundary

def subtract (a b : Nat) : Editing K Nat :=
  if b ≤ a then pure (a - b) else throw .negativeOffset

def slice (r : ByteRange) : Editing K Text := do
  access (.slice r)
  let d ← document
  expect (Text.slice? r.start r.stop d.text)

def length : Editing K Nat := do
  let d ← document
  pure d.length

def floor (offset : Nat) : Editing K Nat := do
  access (.floor offset)
  let d ← document
  pure (Text.floorOffset offset d.text)

def bounds (r : ByteRange) : Editing K (Rect K × Nat) := do
  access (.bounds r)
  let e ← editor
  pure (e.layout.bounds e.document.text r)

def indexAt (p : Point K) : Editing K (Option Nat) := do
  let e ← editor
  pure (e.layout.indexAt e.document.text p)

def replace (r : ByteRange) (new : Text) : Editing K Unit := do
  access (.replace r new)
  let d ← document
  let text ← expect (Text.replace? r.start r.stop new d.text)
  put { d with text := text }

def setComposition (r : Option ByteRange) : Editing K Unit := do
  access (.setComposition r)
  let d ← document
  put { d with composition := r }

def setSelection (r : ByteRange) : Editing K Unit := do
  access (.setSelection r)
  let d ← document
  put { d with selection := r }

end Editing

end WindowRelay

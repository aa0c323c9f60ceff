import WindowRelay.AppKit.Window

/-!
# AppKit text input

The requests that an AppKit input method makes to a view.  Ranges count UTF-16 units, and one
location stands for "no range".  Rectangles and points are window coordinates.

`AppKit.Call` gathers everything that can happen to a window of this toolkit.
-/

namespace WindowRelay
namespace AppKit

structure NativeRange where
  location : Nat
  length : Nat
  deriving DecidableEq, Repr

namespace NativeRange

def notFoundLocation : Nat :=
  Nat.pow 2 63 - 1

def notFound : NativeRange :=
  ⟨notFoundLocation, 0⟩

def ofRange (r : TextRange) : NativeRange :=
  ⟨r.start, r.len⟩

def toRange? (r : NativeRange) : Option TextRange :=
  if r.location = notFoundLocation then none else some ⟨r.location, r.length⟩

end NativeRange

namespace Window

variable {K : Type} [Scalar K]

omit [Scalar K] in
def hasTextContext : Act K (Window K) Bool :=
  relaying (Relay.dispatch Dispatcher.hasEditor)

omit [Scalar K] in
def hasMarkedText : Act K (Window K) (Except Fault Bool) :=
  relaying (Relay.query false (Option.isSome <$> InputMethod.composingRange))

omit [Scalar K] in
def insertText (text : Text) (replacement : NativeRange) : Act K (Window K) (Except Fault Unit) :=
  relaying (Relay.request "insertText:replacementRange:" ()
    (Functor.discard (InputMethod.insertText text replacement.toRange?)))

omit [Scalar K] in
def setMarkedText (text : Text) (selection replacement : NativeRange) :
    Act K (Window K) (Except Fault Unit) :=
  relaying (Relay.request "setMarkedText:" ()
    (InputMethod.setComposingText text (selection.toRange?.getD ⟨0, 0⟩) replacement.toRange?))

omit [Scalar K] in
def unmarkText : Act K (Window K) (Except Fault Unit) :=
  relaying (Relay.request "unmarkText" () InputMethod.clearComposingText)

omit [Scalar K] in
def selectedRange : Act K (Window K) (Except Fault NativeRange) :=
  relaying (Relay.query .notFound (NativeRange.ofRange <$> InputMethod.selectedRange))

omit [Scalar K] in
def markedRange : Act K (Window K) (Except Fault NativeRange) :=
  relaying (Relay.query .notFound
    ((fun r => (r.map NativeRange.ofRange).getD .notFound) <$> InputMethod.composingRange))

omit [Scalar K] in
def substring (range : NativeRange) :
    Act K (Window K) (Except Fault (Option (Text × NativeRange))) :=
  relaying (Relay.request "attributedSubstringForProposedRange:" none
    (match range.toRange? with
    | none => pure none
    | some r =>
        (fun (t, actual) => some (t, NativeRange.ofRange actual)) <$> InputMethod.textInRange r))

def firstRect (range : NativeRange) : Act K (Window K) (Except Fault (Rect K × NativeRange)) := do
  let w ← get
  match range.toRange? with
  | none => pure (.ok (Rect.zero, .notFound))
  | some r =>
      relaying (Relay.request "firstRectForCharacterRange:" (Rect.zero, .notFound)
        ((fun (rect, actual) => (w.ofContent rect, NativeRange.ofRange actual)) <$>
          InputMethod.boundingRect r))

def characterIndex (location : Point K) : Act K (Window K) (Except Fault Nat) := do
  let w ← get
  relaying (Relay.request "characterIndexForPoint:" NativeRange.notFoundLocation
    ((fun i => i.getD NativeRange.notFoundLocation) <$>
      InputMethod.characterIndex (w.toContent location)))

end Window

/-! ## Calls -/

inductive Call (K : Type)
  | event (e : Event K)
  | setContentHeight (height : K)
  | shouldClose
  | willClose
  | didResize (contentSize : Size K)
  | didChangeBacking
  | didBecomeKey
  | didResignKey
  | updateReady
  | hitTest (location : Point K)
  | flushGestures
  | hasMarkedText
  | hasTextContext
  | insertText (text : Text) (replacement : NativeRange)
  | setMarkedText (text : Text) (selection replacement : NativeRange)
  | unmarkText
  | selectedRange
  | markedRange
  | substring (range : NativeRange)
  | firstRect (range : NativeRange)
  | characterIndex (location : Point K)
  | relay (c : Relay.Call K)

inductive Reply (K : Type)
  | done
  | yesNo (yes : Bool)
  | hit (h : NcHit)
  | range (r : NativeRange)
  | substring (s : Option (Text × NativeRange))
  | rect (r : Rect K) (actual : NativeRange)
  | index (i : Nat)
  | relay (r : Relay.Reply K)

namespace Window

variable {K : Type} [Scalar K]

def step : Call K → Act K (Window K) (Except Fault (Reply K))
  | .event e => do
      handle e
      pure (.ok .done)
  | .setContentHeight height => do
      setContentHeight height
      pure (.ok .done)
  | .shouldClose => do
      let yes ← shouldClose
      pure (.ok (.yesNo yes))
  | .willClose => do
      willClose
      pure (.ok .done)
  | .didResize size => do
      didResize size
      pure (.ok .done)
  | .didChangeBacking => do
      didChangeBacking
      pure (.ok .done)
  | .didBecomeKey => do
      relaying (Relay.focus true)
      pure (.ok .done)
  | .didResignKey => do
      relaying (Relay.focus false)
      pure (.ok .done)
  | .updateReady => do
      updateReady
      pure (.ok .done)
  | .hitTest location => do
      let h ← hitTest location
      pure (.ok (.hit h))
  | .flushGestures => do
      flushGestures
      pure (.ok .done)
  | .hasTextContext => do
      let yes ← hasTextContext
      pure (.ok (.yesNo yes))
  | .hasMarkedText => (Except.map .yesNo) <$> hasMarkedText
  | .insertText text replacement => (Except.map fun _ => .done) <$> insertText text replacement
  | .setMarkedText text selection replacement =>
      (Except.map fun _ => .done) <$> setMarkedText text selection replacement
  | .unmarkText => (Except.map fun _ => .done) <$> unmarkText
  | .selectedRange => (Except.map .range) <$> selectedRange
  | .markedRange => (Except.map .range) <$> markedRange
  | .substring range => (Except.map .substring) <$> substring range
  | .firstRect range => (Except.map fun (r, actual) => .rect r actual) <$> firstRect range
  | .characterIndex location => (Except.map .index) <$> characterIndex location
  | .relay c => do
      let r ← relaying (Relay.step c)
      pure (.ok (.relay r))

end Window

end AppKit
end WindowRelay

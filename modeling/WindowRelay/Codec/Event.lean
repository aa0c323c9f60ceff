import WindowRelay.Codec.Geometry
import WindowRelay.Pointer
import WindowRelay.Scroll.Event

/-!
# Stored events

Buttons are their index, whatever it is.  The button of a pointer event is the only part of a
record that may be missing.
-/

namespace WindowRelay

open Value

instance : Coded Activation :=
  ⟨ofLabelled, toLabelled?⟩

instance : Coded ScrollDirection :=
  ⟨ofLabelled, toLabelled?⟩

instance : Coded ScrollClass :=
  ⟨ofLabelled, toLabelled?⟩

instance : Coded MouseButton where
  encode b := Coded.encode b.index
  decode? v := (Coded.decode? v).map MouseButton.mk

instance : Coded (ScrollAmount Float) where
  encode
    | .step d => .record [("Step", Coded.encode d)]
    | .delta d => .record [("Delta", Coded.encode d)]
  decode? v := do
    match ← choice? v with
    | ("Step", d) => (Coded.decode? d).map .step
    | ("Delta", d) => (Coded.decode? d).map .delta
    | _ => none

instance : Coded (PointerEvent Float) where
  encode e :=
    .record [("position", Coded.encode e.position), ("button", ofOption e.button),
      ("pressed", Coded.encode e.pressed), ("activation", Coded.encode e.activation)]
  decode? v := do
    match ← parts? ["position", "button", "pressed", "activation"] v with
    | [position, button, pressed, activation] =>
        let position ← required? position
        let button ← optional? button
        let pressed ← required? pressed
        let activation ← required? activation
        pure ⟨position, button, pressed, activation⟩
    | _ => none

instance : Coded (ScrollInput Float) where
  encode i :=
    .record [("position", Coded.encode i.position), ("amount", Coded.encode i.amount),
      ("is_stop", Coded.encode i.isStop), ("timestamp", Coded.encode i.timestamp)]
  decode? v := do
    match ← parts? ["position", "amount", "is_stop", "timestamp"] v with
    | [position, amount, isStop, timestamp] =>
        let position ← required? position
        let amount ← required? amount
        let isStop ← required? isStop
        let timestamp ← required? timestamp
        pure ⟨position, amount, isStop, timestamp⟩
    | _ => none

instance : Coded (ScrollEvent Float) where
  encode e :=
    .record [("position", Coded.encode e.position), ("delta", Coded.encode e.delta),
      ("class", Coded.encode e.kind), ("timestamp", Coded.encode e.timestamp)]
  decode? v := do
    match ← parts? ["position", "delta", "class", "timestamp"] v with
    | [position, delta, kind, timestamp] =>
        let position ← required? position
        let delta ← required? delta
        let kind ← required? kind
        let timestamp ← required? timestamp
        pure ⟨position, delta, kind, timestamp⟩
    | _ => none

end WindowRelay

import WindowRelay.Codec.Value
import WindowRelay.Window.Attributes
import WindowRelay.Window.FlagsText
import WindowRelay.Window.Identity

/-!
# Stored window data

Flags are stored as their text, cursors and hit tests as their labels.
-/

namespace WindowRelay

open Value

instance : Coded WindowId where
  encode w := Coded.encode w.number
  decode? v := (Coded.decode? v).map WindowId.mk

instance : Coded NcHit :=
  ⟨ofLabelled, toLabelled?⟩

instance : Coded CursorShape :=
  ⟨ofLabelled, toLabelled?⟩

instance : Coded WindowFlags where
  encode f := .text f.text
  decode?
    | .text s => WindowFlags.ofText? s
    | _ => none

instance : Coded (Attributes Float) where
  encode a :=
    .record [("flags", Coded.encode a.flags), ("cursor", Coded.encode a.cursor),
      ("line_height", Coded.encode a.lineHeight), ("drag_gestures", Coded.encode a.dragGestures),
      ("scroll_gestures", Coded.encode a.scrollGestures)]
  decode? v := do
    match ← parts? ["flags", "cursor", "line_height", "drag_gestures", "scroll_gestures"] v with
    | [flags, cursor, lineHeight, dragGestures, scrollGestures] =>
        let flags ← required? flags
        let cursor ← required? cursor
        let lineHeight ← required? lineHeight
        let dragGestures ← required? dragGestures
        let scrollGestures ← required? scrollGestures
        pure ⟨flags, cursor, lineHeight, dragGestures, scrollGestures⟩
    | _ => none

end WindowRelay

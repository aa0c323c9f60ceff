/-!
# Window identity

Every callback names the window it belongs to by a `WindowId`.  A `WindowHandle` refers to the
native window without owning it; a detached one has no native object behind it.
-/

namespace WindowRelay

structure WindowId where
  number : UInt64
  deriving DecidableEq, Repr, Inhabited

namespace WindowId

/-- The identifier that stands for no particular window. -/
def dummy : WindowId :=
  ⟨0⟩

def describe (w : WindowId) : String :=
  "WindowId(" ++ toString w.number ++ ")"

end WindowId

/-- The identifier of a native window on an X11 display, by the client library in use. -/
inductive RawHandle
  | xlib (window : UInt64)
  | xcb (window : UInt32)
  deriving DecidableEq, Repr

namespace RawHandle

def label : RawHandle → String
  | .xlib _ => "Xlib"
  | .xcb _ => "Xcb"

def number : RawHandle → Nat
  | .xlib n => n.toNat
  | .xcb n => n.toNat

end RawHandle

inductive HandleError
  | unavailable
  deriving DecidableEq, Repr

def HandleError.label : HandleError → String
  | .unavailable => "Unavailable"

structure WindowHandle where
  id : WindowId
  raw : Option RawHandle
  deriving DecidableEq, Repr

namespace WindowHandle

def detached (id : WindowId) : WindowHandle :=
  ⟨id, none⟩

/-- The native object behind a handle. -/
def native (h : WindowHandle) : Except HandleError RawHandle :=
  match h.raw with
  | some raw => .ok raw
  | none => .error .unavailable

def describe (h : WindowHandle) : String :=
  "WindowHandle \x7b id: " ++ h.id.describe ++ ", attached: " ++ toString h.raw.isSome ++ " \x7d"

end WindowHandle

end WindowRelay

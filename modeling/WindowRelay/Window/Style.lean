import WindowRelay.Window.Flags

/-!
# Native styles

What each toolkit needs to be told to create a window with given flags.

* AppKit: a style mask, and whether the content is backed by a blurring view;
* GTK: four properties of the window;
* Win32: a style word, and whether to blur behind the window.
-/

namespace WindowRelay

/-! ## AppKit -/

structure AppKitStyle where
  mask : UInt64
  visualEffect : Bool
  deriving DecidableEq, Repr

namespace AppKitStyle

def titled : UInt64 :=
  0x1

def closable : UInt64 :=
  0x2

def miniaturizable : UInt64 :=
  0x4

def resizable : UInt64 :=
  0x8

def fullSizeContentView : UInt64 :=
  0x8000

def ofFlags (f : WindowFlags) : AppKitStyle :=
  let frame := if f.has .borderless then 0 else titled ||| closable ||| miniaturizable
  let resize := if f.has .resizable then resizable else 0
  let content := if f.has .fullSizeContent then fullSizeContentView else 0
  ⟨frame ||| resize ||| content, f.has .transparentBackdropBlur⟩

end AppKitStyle

/-! ## GTK -/

structure GtkProperties where
  decorated : Bool
  resizable : Bool
  rgbaVisual : Bool
  customTitlebar : Bool
  deriving DecidableEq, Repr

def GtkProperties.ofFlags (f : WindowFlags) : GtkProperties :=
  ⟨!f.has .borderless, f.has .resizable, f.has .transparentBackdropBlur, f.has .fullSizeContent⟩

/-! ## Win32 -/

structure Win32Style where
  word : UInt32
  blurBehind : Bool
  deriving DecidableEq, Repr

namespace Win32Style

def maximizeBox : UInt32 :=
  0x00010000

def minimizeBox : UInt32 :=
  0x00020000

def sizeBox : UInt32 :=
  0x00040000

def sysMenu : UInt32 :=
  0x00080000

def caption : UInt32 :=
  0x00C00000

def popup : UInt32 :=
  0x80000000

def ofFlags (f : WindowFlags) : Win32Style :=
  let frame := if f.has .borderless then popup else caption ||| sysMenu ||| minimizeBox
  let resize := if f.has .resizable then sizeBox ||| maximizeBox else 0
  ⟨frame ||| resize, f.has .transparentBackdropBlur⟩

end Win32Style

end WindowRelay

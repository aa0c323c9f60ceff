import WindowRelay.Label

/-!
# Cursors and hit tests

What a window says of a point inside it.  `NcHit` tells whether the point belongs to the contents or
moves the window when it is dragged.

`CursorShape` is the appearance of the pointer over a window.  Each toolkit names its cursors in
its own way, and each naming is a total function here:

* `CursorShape.cssName` — the desktop cursor specification, which GTK follows;
* `CursorShape.appKit` — a class method of the toolkit, or an image of its web view;
* `CursorShape.win32` — the number of a system resource.

A shape that a toolkit lacks gets the closest one it has.
-/

namespace WindowRelay

/-! ## Hit tests -/

inductive NcHit
  | client
  | grab
  deriving DecidableEq, Repr, Inhabited

instance : Enumeration NcHit where
  typeName := "NcHit"
  all := [.client, .grab]
  label
    | .client => "Client"
    | .grab => "Grab"

/-! ## Shapes -/

inductive CursorShape
  | default
  | crosshair
  | hand
  | arrow
  | move
  | text
  | wait
  | help
  | progress
  | notAllowed
  | contextMenu
  | cell
  | verticalText
  | alias
  | copy
  | noDrop
  | grab
  | grabbing
  | allScroll
  | zoomIn
  | zoomOut
  | eResize
  | nResize
  | neResize
  | nwResize
  | sResize
  | seResize
  | swResize
  | wResize
  | ewResize
  | nsResize
  | neswResize
  | nwseResize
  | colResize
  | rowResize
  deriving DecidableEq, Repr, Inhabited

namespace CursorShape

instance : Enumeration CursorShape where
  typeName := "CursorShape"
  all :=
    [.default, .crosshair, .hand, .arrow, .move, .text, .wait, .help, .progress, .notAllowed,
      .contextMenu, .cell, .verticalText, .alias, .copy, .noDrop, .grab, .grabbing, .allScroll,
      .zoomIn, .zoomOut, .eResize, .nResize, .neResize, .nwResize, .sResize, .seResize, .swResize,
      .wResize, .ewResize, .nsResize, .neswResize, .nwseResize, .colResize, .rowResize]
  label
    | .default => "Default"
    | .crosshair => "Crosshair"
    | .hand => "Hand"
    | .arrow => "Arrow"
    | .move => "Move"
    | .text => "Text"
    | .wait => "Wait"
    | .help => "Help"
    | .progress => "Progress"
    | .notAllowed => "NotAllowed"
    | .contextMenu => "ContextMenu"
    | .cell => "Cell"
    | .verticalText => "VerticalText"
    | .alias => "Alias"
    | .copy => "Copy"
    | .noDrop => "NoDrop"
    | .grab => "Grab"
    | .grabbing => "Grabbing"
    | .allScroll => "AllScroll"
    | .zoomIn => "ZoomIn"
    | .zoomOut => "ZoomOut"
    | .eResize => "EResize"
    | .nResize => "NResize"
    | .neResize => "NeResize"
    | .nwResize => "NwResize"
    | .sResize => "SResize"
    | .seResize => "SeResize"
    | .swResize => "SwResize"
    | .wResize => "WResize"
    | .ewResize => "EwResize"
    | .nsResize => "NsResize"
    | .neswResize => "NeswResize"
    | .nwseResize => "NwseResize"
    | .colResize => "ColResize"
    | .rowResize => "RowResize"

/-! ## The desktop specification -/

def cssName : CursorShape → String
  | .default | .arrow => "default"
  | .crosshair => "crosshair"
  | .hand => "pointer"
  | .move => "move"
  | .text => "text"
  | .wait => "wait"
  | .help => "help"
  | .progress => "progress"
  | .notAllowed => "not-allowed"
  | .contextMenu => "context-menu"
  | .cell => "cell"
  | .verticalText => "vertical-text"
  | .alias => "alias"
  | .copy => "copy"
  | .noDrop => "no-drop"
  | .grab => "grab"
  | .grabbing => "grabbing"
  | .allScroll => "all-scroll"
  | .zoomIn => "zoom-in"
  | .zoomOut => "zoom-out"
  | .eResize => "e-resize"
  | .nResize => "n-resize"
  | .neResize => "ne-resize"
  | .nwResize => "nw-resize"
  | .sResize => "s-resize"
  | .seResize => "se-resize"
  | .swResize => "sw-resize"
  | .wResize => "w-resize"
  | .ewResize => "ew-resize"
  | .nsResize => "ns-resize"
  | .neswResize => "nesw-resize"
  | .nwseResize => "nwse-resize"
  | .colResize => "col-resize"
  | .rowResize => "row-resize"

end CursorShape

/-! ## AppKit -/

/-- Where AppKit gets a cursor from: a public class method, an undocumented one, or an image that
its web view ships. -/
inductive AppKitCursor
  | native (method : String)
  | undocumented (method : String)
  | webKit (image : String)
  deriving DecidableEq, Repr

namespace AppKitCursor

def standard : AppKitCursor :=
  .native "arrowCursor"

def name : AppKitCursor → String
  | .native n => n
  | .undocumented n => n
  | .webKit n => n

def describe : AppKitCursor → String
  | .native n => "Native(\"" ++ n ++ "\")"
  | .undocumented n => "Undocumented(\"" ++ n ++ "\")"
  | .webKit n => "WebKit(\"" ++ n ++ "\")"

end AppKitCursor

namespace CursorShape

def appKit : CursorShape → AppKitCursor
  | .default | .arrow => .native "arrowCursor"
  | .hand => .native "pointingHandCursor"
  | .grab => .native "openHandCursor"
  | .grabbing => .native "closedHandCursor"
  | .text => .native "IBeamCursor"
  | .verticalText => .native "IBeamCursorForVerticalLayout"
  | .copy => .native "dragCopyCursor"
  | .alias => .native "dragLinkCursor"
  | .notAllowed | .noDrop => .native "operationNotAllowedCursor"
  | .contextMenu => .native "contextualMenuCursor"
  | .crosshair => .native "crosshairCursor"
  | .eResize => .native "resizeRightCursor"
  | .nResize => .native "resizeUpCursor"
  | .wResize => .native "resizeLeftCursor"
  | .sResize => .native "resizeDownCursor"
  | .ewResize | .colResize => .native "resizeLeftRightCursor"
  | .nsResize | .rowResize => .native "resizeUpDownCursor"
  | .help => .undocumented "_helpCursor"
  | .zoomIn => .undocumented "_zoomInCursor"
  | .zoomOut => .undocumented "_zoomOutCursor"
  | .neResize => .undocumented "_windowResizeNorthEastCursor"
  | .nwResize => .undocumented "_windowResizeNorthWestCursor"
  | .seResize => .undocumented "_windowResizeSouthEastCursor"
  | .swResize => .undocumented "_windowResizeSouthWestCursor"
  | .neswResize => .undocumented "_windowResizeNorthEastSouthWestCursor"
  | .nwseResize => .undocumented "_windowResizeNorthWestSouthEastCursor"
  | .wait | .progress => .undocumented "busyButClickableCursor"
  | .move | .allScroll => .webKit "move"
  | .cell => .webKit "cell"

/-! ## Win32 -/

def win32 : CursorShape → UInt16
  | .default | .arrow | .contextMenu | .alias | .copy | .zoomIn | .zoomOut => 32512
  | .text | .verticalText => 32513
  | .wait => 32514
  | .crosshair | .cell => 32515
  | .nwResize | .seResize | .nwseResize => 32642
  | .neResize | .swResize | .neswResize => 32643
  | .eResize | .wResize | .ewResize | .colResize => 32644
  | .nResize | .sResize | .nsResize | .rowResize => 32645
  | .grab | .grabbing | .move | .allScroll => 32646
  | .notAllowed | .noDrop => 32648
  | .hand => 32649
  | .progress => 32650
  | .help => 32651

end CursorShape

end WindowRelay

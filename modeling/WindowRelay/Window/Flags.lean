import WindowRelay.Label
import WindowRelay.Mask

/-!
# Window flags

The features of a window that are fixed when it is created, and sets of them.
-/

namespace WindowRelay

inductive WindowFeature
  | resizable
  | borderless
  | transparentBackdropBlur
  | fullSizeContent
  deriving DecidableEq, Repr

/-- The features are listed in bit order. -/
instance : Labelled WindowFeature where
  all := [.resizable, .borderless, .transparentBackdropBlur, .fullSizeContent]
  label
    | .resizable => "RESIZABLE"
    | .borderless => "BORDERLESS"
    | .transparentBackdropBlur => "TRANSPARENT_BACKDROP_BLUR"
    | .fullSizeContent => "FULL_SIZE_CONTENT"

instance : Bit WindowFeature where
  position
    | .resizable => 0
    | .borderless => 1
    | .transparentBackdropBlur => 2
    | .fullSizeContent => 3

instance : Bit.Distinct WindowFeature where
  position_injective := by
    intro a b
    cases a <;> cases b <;> simp [Bit.position]

abbrev WindowFlags : Type :=
  Mask WindowFeature

namespace WindowFlags

def standard : WindowFlags :=
  Mask.single .resizable

/-- The features in a set, in bit order. -/
def features (f : WindowFlags) : List WindowFeature :=
  Labelled.all.filter f.has

/-- The set without its unnamed bits. -/
def named (f : WindowFlags) : WindowFlags :=
  f.known Labelled.all

/-- The unnamed bits of a set. -/
def unnamed (f : WindowFlags) : WindowFlags :=
  f.unknown Labelled.all

end WindowFlags

end WindowRelay

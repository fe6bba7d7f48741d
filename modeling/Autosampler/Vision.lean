/-!
# Seeing the sample labels

A camera delivers greyscale pictures, a decoder reads the label on one.  Labels may be printed
light on dark, so a picture without a readable label is tried again with its shades inverted.

* `Picture`, `Picture.inverted` — pictures;
* `Grab` — what comes of asking the camera for a picture;
* `Picture.label?` — the label on a picture, upright or inverted;
* `Grab.capture`, `Grab.label?` — the label on the next picture, with and without the reason why
  there is none.
-/

namespace Autosampler

/-- A greyscale picture, row by row from the top left. -/
structure Picture where
  width : Nat
  height : Nat
  pixels : List UInt8
deriving DecidableEq

/-- The reading of a label. -/
abbrev Decoder := Picture → Option String

/-- A picture of one shade. -/
def Picture.plain (width height : Nat) (shade : UInt8) : Picture :=
  ⟨width, height, List.replicate (width * height) shade⟩

/-- The picture with every shade turned into its opposite. -/
def Picture.inverted (p : Picture) : Picture := { p with pixels := p.pixels.map (255 - ·) }

/-- The label on a picture, dark on light or light on dark. -/
def Picture.label? (decode : Decoder) (p : Picture) : Option String :=
  (decode p).or (decode p.inverted)

/-- What comes of asking the camera for a picture. -/
inductive Grab where
  /-- No picture is available. -/
  | nothing
  /-- The camera failed. -/
  | failed (reason : String)
  /-- The camera crashed. -/
  | crashed
  | picture (p : Picture)

namespace Grab

/-- The label on the picture; a missing picture or an unreadable label is no failure. -/
def capture (decode : Decoder) : Grab → Except String (Option String)
  | nothing => .ok none
  | failed reason => .error reason
  | crashed => .error "camera crashed"
  | picture p => .ok (p.label? decode)

/-- The label on the picture, if one was read. -/
def label? (decode : Decoder) (g : Grab) : Option String :=
  match g.capture decode with
  | .ok label => label
  | .error _ => none

end Grab

end Autosampler

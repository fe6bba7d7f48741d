import Autosampler.Vision
import Autosampler.Vision.Png

/-!
# Cameras

A camera is either missing, or a file that is overwritten with the latest picture.

* `Camera`, `Camera.choose` — the cameras, and the one that the settings ask for;
* `Camera.grab` — the latest picture.

A picture file is unpacked to see that it holds all rows of a picture.  Its shades are left to the
decoder of labels, and the picture counts as blank.
-/

namespace Autosampler

/-- The kinds of cameras. -/
inductive CameraKind where
  | none
  | file
deriving DecidableEq

/-- A camera. -/
inductive Camera where
  /-- There is no camera. -/
  | missing
  /-- The latest picture is in the file at `path`. -/
  | file (path : String)
deriving DecidableEq

namespace Camera

/-- The camera of a kind and a path.  A file camera without a path is missing. -/
def choose : CameraKind → Option String → Camera
  | .file, some path => .file path
  | _, _ => .missing

/-- The picture in a file, if the file exists. -/
def grabFile : Option (List UInt8) → Grab
  | none => .nothing
  | some bytes =>
    match Png.size? bytes with
    | some (width, height) => .picture (Picture.plain width height 255)
    | none => .failed "unreadable picture"

/-- The latest picture, given what files hold. -/
def grab (read : String → Option (List UInt8)) : Camera → Grab
  | missing => .nothing
  | file path => grabFile (read path)

end Camera

end Autosampler

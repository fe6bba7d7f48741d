import Autosampler.Config.Reader
import Autosampler.Toml.Printer

/-!
# Settings as a file

* `Config.sections` — the sections that hold the settings;
* `Config.toText` — the text of a file with them.
-/

namespace Autosampler.Config

open Toml (Scalar Section)

/-- The section of a path below the section of all settings. -/
def sectionAt (path : List String) (entries : List (String × Scalar)) : Section :=
  ⟨sectionName :: path, entries⟩

/-- The entries of a place to listen at. -/
def endpointEntries (e : Endpoint) : List (String × Scalar) :=
  [("enabled", .flag e.enabled), ("listen", .text e.address.toText),
   ("port", .natural e.port.toNat)]

/-- The name of a kind of camera. -/
def cameraName : CameraKind → String
  | .none => "none"
  | .file => "file"

/-- An entry that may be missing. -/
def optionEntry (name : String) (value : Option String) : List (String × Scalar) :=
  (value.map fun s => (name, Scalar.text s)).toList

/-- The sections that hold the settings. -/
def sections (c : Config) : List Section :=
  [sectionAt ["general"] (optionEntry "log_level" c.logLevel),
   sectionAt ["changer"] [("nsamples", .natural c.slots)],
   sectionAt ["robot"]
     [("backend", .text c.robot.backend), ("host", .text c.robot.host),
      ("port", .natural c.robot.port.toNat), ("timeout_ms", .natural c.robot.timeout),
      ("poll_interval_ms", .natural c.robot.pollInterval),
      ("max_retries", .natural c.robot.attempts),
      ("retry_base_delay_ms", .natural c.robot.retryDelay)],
   sectionAt ["listen"] (endpointEntries c.listen),
   sectionAt ["control"] (endpointEntries c.control),
   sectionAt ["control", "auth"] [("tokens", .texts c.tokens)],
   sectionAt ["vision"]
     (("camera", .text (cameraName c.camera)) :: optionEntry "image_path" c.imagePath)]

/-- The text of a file with the settings. -/
def toText (c : Config) : String := Toml.printSections c.sections

end Autosampler.Config

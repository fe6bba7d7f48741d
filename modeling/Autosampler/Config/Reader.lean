import Autosampler.Config.Basic
import Autosampler.Toml.Document

/-!
# Settings from a file

The settings are one section of a settings file.  A section is a table, or a list of its values in
order; what is not said keeps its usual value, and unknown names are skipped.

* `readText`, `readWhole`, `readFlag`, `readAddress`, `readTexts`, `readCamera` — values;
* `Field`, `readSection` — the fields of a section, which may be sections themselves;
* `Config.ofValue?` — the settings that a section holds;
* `Lookup`, `Config.lookup` — the settings under a name in the text of a file.
-/

namespace Autosampler.Config

open Toml (Value)

/-! ### Values -/

/-- A text; a moment counts as its usual text. -/
def readText : Value → Option String
  | .text s => some s
  | .moment m => some m.toText
  | _ => none

/-- A whole number below a bound. -/
def readWhole (bound : Nat) : Value → Option Nat
  | .integer n => if 0 ≤ n ∧ n < bound then some n.toNat else none
  | _ => none

/-- A port. -/
def readPort (v : Value) : Option UInt16 := (readWhole (Nat.pow 2 16) v).map UInt16.ofNat

/-- A truth value. -/
def readFlag : Value → Option Bool
  | .bool b => some b
  | _ => none

/-- An address, as a text. -/
def readAddress (v : Value) : Option Address := (readText v).bind Address.ofText?

/-- A list of texts. -/
def readTexts : Value → Option (List String)
  | .list items => items.mapM readText
  | _ => none

/-- The kind of camera of a name. -/
def cameraOfName? (name : String) : Option CameraKind :=
  if name = "none" then some .none else if name = "file" then some .file else none

/-- A kind of camera: its name, or a table of that one name with nothing in it. -/
def readCamera : Value → Option CameraKind
  | .text name => cameraOfName? name
  | .table [(name, .table [])] => cameraOfName? name
  | .table [(name, .list [])] => cameraOfName? name
  | _ => none

/-! ### Sections -/

/-- A field of a section: its name, and how its value changes the settings. -/
structure Field where
  name : String
  put : Config → Value → Option Config

/-- A field whose value is read and then stored. -/
def Field.of {α : Type} (name : String) (read : Value → Option α) (store : Config → α → Config) :
    Field :=
  ⟨name, fun c v => (read v).map (store c)⟩

/-- Store the value of a name, if it is a field. -/
def putNamed (fields : List Field) (c : Config) (entry : String × Value) : Option Config :=
  match fields.find? fun f => f.name == entry.1 with
  | some f => f.put c entry.2
  | none => some c

/-- Store the values of a section on top of some settings. -/
def readSection (fields : List Field) (c : Config) : Value → Option Config
  | .table entries => entries.foldlM (putNamed fields) c
  | .list items =>
    if fields.length < items.length then none
    else (fields.zip items).foldlM (fun c p => p.1.put c p.2) c
  | _ => none

/-- A field that is a section itself. -/
def Field.nested (name : String) (fields : List Field) : Field := ⟨name, readSection fields⟩

/-- The fields for the robot. -/
def robotFields : List Field :=
  [.of "backend" readText fun c v => { c with robot := { c.robot with backend := v } },
   .of "host" readText fun c v => { c with robot := { c.robot with host := v } },
   .of "port" readPort fun c v => { c with robot := { c.robot with port := v } },
   .of "timeout_ms" (readWhole (Nat.pow 2 64)) fun c v =>
     { c with robot := { c.robot with timeout := v } },
   .of "poll_interval_ms" (readWhole (Nat.pow 2 64)) fun c v =>
     { c with robot := { c.robot with pollInterval := v } },
   .of "max_retries" (readWhole (Nat.pow 2 32)) fun c v =>
     { c with robot := { c.robot with attempts := v } },
   .of "retry_base_delay_ms" (readWhole (Nat.pow 2 64)) fun c v =>
     { c with robot := { c.robot with retryDelay := v } }]

/-- The fields for a place to listen at. -/
def endpointFields (change : Config → (Endpoint → Endpoint) → Config) : List Field :=
  [.of "enabled" readFlag fun c v => change c fun e => { e with enabled := v },
   .of "listen" readAddress fun c v => change c fun e => { e with address := v },
   .of "port" readPort fun c v => change c fun e => { e with port := v }]

/-- The fields of all settings. -/
def fields : List Field :=
  [.nested "general"
     [.of "log_level" readText fun c v => { c with logLevel := some v }],
   .nested "changer"
     [.of "nsamples" (readWhole (Nat.pow 2 64)) fun c v => { c with slots := v }],
   .nested "robot" robotFields,
   .nested "listen" (endpointFields fun c f => { c with listen := f c.listen }),
   .nested "control"
     (endpointFields (fun c f => { c with control := f c.control })
       ++ [.nested "auth" [.of "tokens" readTexts fun c v => { c with tokens := v }]]),
   .nested "vision"
     [.of "camera" readCamera fun c v => { c with camera := v },
      .of "image_path" readText fun c v => { c with imagePath := some v }]]

/-- The settings that a section holds. -/
def ofValue? (v : Value) : Option Config := readSection fields {} v

/-! ### Files -/

/-- The name of the section. -/
def sectionName : String := "changer-server"

/-- What the text of a file says about the settings. -/
inductive Lookup where
  /-- The text is no settings file, or the section does not fit. -/
  | malformed
  /-- There is no such section. -/
  | missing
  | found (config : Config)

/-- The settings in the section of a name. -/
def lookup (name text : String) : Lookup :=
  match Toml.readDocument text with
  | none => .malformed
  | some entries =>
    match Toml.lookup? name entries with
    | none => .missing
    | some v =>
      match ofValue? v with
      | none => .malformed
      | some config => .found config

end Autosampler.Config

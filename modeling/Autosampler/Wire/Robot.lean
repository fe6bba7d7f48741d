import Autosampler.Robot.Driver
import Autosampler.Wire.Names

/-!
# Robots on the wire

* `RobotStatus.toJson`, `RobotStatus.read` — the report of a robot;
* `Access.toJson`, `Access.read` — how a robot is reached;
* `DriverInfo.toJson`, `DriverInfo.read` — what a driver says about itself.
-/

namespace Autosampler

open Json (Member Reader Record Value required)

/-! ### Reports -/

/-- A report as far as its members are known. -/
structure RobotStatus.Draft where
  mode : Option Mode := none
  safety : Option Safety := none
  remoteControl : Option Bool := none
  programRunning : Option Bool := none
  loadedProgram : Option (Option String) := none

/-- The members of a report. -/
def RobotStatus.record : Record RobotStatus.Draft RobotStatus :=
  { name := "DriverStatus"
    blank := {}
    members :=
      [Member.kept "mode" Mode.read (·.mode) fun d a => { d with mode := some a },
       Member.kept "safety" Safety.read (·.safety) fun d a => { d with safety := some a },
       Member.kept "remote_control" Json.readBool (·.remoteControl) fun d a =>
         { d with remoteControl := some a },
       Member.kept "program_running" Json.readBool (·.programRunning) fun d a =>
         { d with programRunning := some a },
       (Member.kept "loaded_program" (Json.readOptional Json.readString) (·.loadedProgram)
         fun d a => { d with loadedProgram := some a }).dispensable]
    finish := fun d => do
      let mode ← required "mode" d.mode
      let safety ← required "safety" d.safety
      let remoteControl ← required "remote_control" d.remoteControl
      let programRunning ← required "program_running" d.programRunning
      .ok ⟨mode, safety, remoteControl, programRunning, d.loadedProgram.getD none⟩ }

/-- Read a report. -/
def RobotStatus.read : Reader RobotStatus := RobotStatus.record.read

/-- Write a report. -/
def RobotStatus.toJson (s : RobotStatus) : Value :=
  .present
    [("mode", some s.mode.toJson), ("safety", some s.safety.toJson),
     ("remote_control", some (.bool s.remoteControl)),
     ("program_running", some (.bool s.programRunning)),
     ("loaded_program", s.loadedProgram.map .text)]

/-! ### Drivers -/

/-- The address of a robot on the network. -/
def Access.addressRecord : Record (Option String) Access :=
  { name := "variant DriverAccess::Tcp"
    blank := Option.none
    members := [Member.kept "addr" Json.readString id fun _ addr => some addr]
    finish := fun addr => (required "addr" addr).map .tcp }

/-- Read how a robot is reached. -/
def Access.read : Reader Access :=
  Json.readVariant
    [{ name := "Tcp", bare := none, content := Access.addressRecord.read },
     Json.Variant.plain "None" .none]

/-- Write how a robot is reached. -/
def Access.toJson : Access → Value
  | tcp addr => .object [("Tcp", .object [("addr", .text addr)])]
  | none => .text "None"

/-- What a driver says about itself, as far as it is known. -/
structure DriverInfo.Draft where
  manufacturer : Option String := none
  model : Option String := none
  access : Option Access := none

/-- The members of what a driver says about itself. -/
def DriverInfo.record : Record DriverInfo.Draft DriverInfo :=
  { name := "DriverInfo"
    blank := {}
    members :=
      [Member.kept "manufacturer" Json.readString (·.manufacturer) fun d a =>
         { d with manufacturer := some a },
       Member.kept "model" Json.readString (·.model) fun d a => { d with model := some a },
       Member.kept "access" Access.read (·.access) fun d a => { d with access := some a }]
    finish := fun d => do
      let manufacturer ← required "manufacturer" d.manufacturer
      let model ← required "model" d.model
      let access ← required "access" d.access
      .ok ⟨manufacturer, model, access⟩ }

/-- Read what a driver says about itself. -/
def DriverInfo.read : Reader DriverInfo := DriverInfo.record.read

/-- Write what a driver says about itself. -/
def DriverInfo.toJson (i : DriverInfo) : Value :=
  .object
    [("manufacturer", .text i.manufacturer), ("model", .text i.model),
     ("access", i.access.toJson)]

end Autosampler

import Autosampler.Net.Address
import Autosampler.Text.Numeral
import Autosampler.Vision.Camera

/-!
# Settings of the changer

* `RobotConfig`, `Endpoint`, `Config` — the settings, with the values that hold where nothing is
  said;
* `RobotConfig.address` — where the robot is reached;
* `Config.example` — settings to start from.
-/

namespace Autosampler

/-- The settings for the robot. -/
structure RobotConfig where
  /-- The name of the backend. -/
  backend : String := "dummy"
  host : String := "127.0.0.1"
  port : UInt16 := 29999
  /-- The longest wait for a reply, in milliseconds. -/
  timeout : Nat := 2000
  /-- The wait between two looks at a resting robot, in milliseconds. -/
  pollInterval : Nat := 1000
  /-- How often to try to reach the robot. -/
  attempts : Nat := 5
  /-- The wait after the first attempt, in milliseconds. -/
  retryDelay : Nat := 200
deriving DecidableEq

/-- The host and the port of the robot. -/
def RobotConfig.address (r : RobotConfig) : String := r.host ++ ":" ++ Text.decimal r.port.toNat

/-- Where the changer listens. -/
structure Endpoint where
  enabled : Bool
  address : Address
  port : UInt16
deriving DecidableEq

/-- All settings. -/
structure Config where
  logLevel : Option String := none
  /-- The number of slots of the magazine. -/
  slots : Nat := 12
  robot : RobotConfig := {}
  /-- The place for the robot's messages. -/
  listen : Endpoint := ⟨true, .four 0 0 0 0, 50030⟩
  /-- The place for the operators' commands. -/
  control : Endpoint := ⟨true, .four 127 0 0 1, 50031⟩
  /-- The tokens of the operators; if there are none, everybody is admitted. -/
  tokens : List String := []
  camera : CameraKind := .none
  /-- The file of the latest picture. -/
  imagePath : Option String := none
deriving DecidableEq

/-- Settings to start from. -/
def Config.example : Config where
  logLevel := some "info"
  robot := { backend := "ur", host := "192.168.1.10" }
  camera := .file
  imagePath := some "/var/lib/changer-rs/camera.png"

end Autosampler

import Autosampler.Config.Printer
import Autosampler.Json.Value

/-!
# Settings on the wire

* `Endpoint.members`, `RobotConfig.toJson`, `Config.toJson` — the settings as JSON, every value
  given.
-/

namespace Autosampler

/-- The members of a place to listen at. -/
def Endpoint.members (e : Endpoint) : List (String × Json.Value) :=
  [("enabled", .bool e.enabled), ("listen", .text e.address.toText),
   ("port", .natural e.port.toNat)]

/-- The settings for the robot. -/
def RobotConfig.toJson (r : RobotConfig) : Json.Value :=
  .object
    [("backend", .text r.backend), ("host", .text r.host), ("port", .natural r.port.toNat),
     ("timeout_ms", .natural r.timeout), ("poll_interval_ms", .natural r.pollInterval),
     ("max_retries", .natural r.attempts), ("retry_base_delay_ms", .natural r.retryDelay)]

/-- All settings; what is not set is null. -/
def Config.toJson (c : Config) : Json.Value :=
  let tokens := Json.Value.list (c.tokens.map .text)
  .object
    [("general", .object [("log_level", .optional .text c.logLevel)]),
     ("changer", .object [("nsamples", .natural c.slots)]),
     ("robot", c.robot.toJson),
     ("listen", .object c.listen.members),
     ("control", .object (c.control.members ++ [("auth", .object [("tokens", tokens)])])),
     ("vision",
      .object
        [("camera", .text (Config.cameraName c.camera)),
         ("image_path", .optional .text c.imagePath)])]

end Autosampler

import Autosampler.Config.Basic
import Autosampler.Text.Blank

/-!
# Sound settings

Settings that can be read may still make no sense.

* `ConfigFault`, `ConfigFault.message` — what can be wrong with settings;
* `Config.rules`, `Config.fault?` — when it is, and the fault that is reported;
* `Config.check`, `Config.unbroken_of_check` — the settings are sound, and no rule is broken then.
-/

namespace Autosampler

/-- What can be wrong with settings. -/
inductive ConfigFault where
  | unknownLevel (level : String)
  | noSlots
  | noBackend
  | noHost
  | noRobotPort
  | noTimeout
  | noPollInterval
  | noAttempts
  | noRetryDelay
  | noListenPort
  | noControlPort
  | sharedAddress
  | blankToken
  | noImagePath
deriving DecidableEq

/-- The wording of a fault in the settings. -/
def ConfigFault.message : ConfigFault → String
  | unknownLevel level =>
    "[general].log_level '" ++ level
      ++ "' is invalid (expected one of: trace, debug, info, warn, error)"
  | noSlots => "[changer].nsamples must be > 0"
  | noBackend => "[robot].backend must not be empty"
  | noHost => "[robot].host must not be empty"
  | noRobotPort => "[robot].port must be > 0"
  | noTimeout => "[robot].timeout_ms must be > 0"
  | noPollInterval => "[robot].poll_interval_ms must be > 0"
  | noAttempts => "[robot].max_retries must be > 0"
  | noRetryDelay => "[robot].retry_base_delay_ms must be > 0"
  | noListenPort => "[listen].port must be > 0 when listener is enabled"
  | noControlPort => "[control].port must be > 0 when control is enabled"
  | sharedAddress => "[listen] and [control] must not share an address"
  | blankToken => "[control.auth].tokens must not contain empty tokens"
  | noImagePath => "[vision].image_path must be set for camera = \"file\""

namespace Config

/-- The names of levels that settings may hold. -/
def levelNames : List String := ["trace", "debug", "info", "warn", "error"]

/-- Both places to listen at are in use, and they are the same. -/
def sharesAddress (c : Config) : Bool :=
  c.listen.enabled && c.control.enabled && c.listen.port = c.control.port
    && c.listen.address = c.control.address

/-- Every fault, with the condition under which the settings have it. -/
def rules (c : Config) : List (Bool × ConfigFault) :=
  [(c.logLevel.any fun level => !levelNames.contains level, .unknownLevel (c.logLevel.getD "")),
   (c.slots = 0, .noSlots),
   (Text.allBlank c.robot.backend, .noBackend),
   (Text.allBlank c.robot.host, .noHost),
   (c.robot.port = 0, .noRobotPort),
   (c.robot.timeout = 0, .noTimeout),
   (c.robot.pollInterval = 0, .noPollInterval),
   (c.robot.attempts = 0, .noAttempts),
   (c.robot.retryDelay = 0, .noRetryDelay),
   (c.listen.enabled && c.listen.port = 0, .noListenPort),
   (c.control.enabled && c.control.port = 0, .noControlPort),
   (c.sharesAddress, .sharedAddress),
   (c.tokens.any Text.allBlank, .blankToken),
   (c.camera = .file && c.imagePath.isNone, .noImagePath)]

/-- The first fault of the settings. -/
def fault? (c : Config) : Option ConfigFault := (c.rules.find? Prod.fst).map Prod.snd

/-- The settings are sound. -/
def check (c : Config) : Except ConfigFault Unit :=
  match c.fault? with
  | some fault => .error fault
  | none => .ok ()

/-- Sound settings have no fault of the rules. -/
theorem unbroken_of_check {c : Config} (hc : c.check = .ok ()) {broken : Bool}
    {fault : ConfigFault} (hrule : (broken, fault) ∈ c.rules) : broken = false := by
  have hfault : c.fault? = none := by
    unfold check at hc
    split at hc
    · cases hc
    · assumption
  have hnone := List.find?_eq_none.mp (Option.map_eq_none_iff.mp hfault) _ hrule
  simpa using hnone

end Config

end Autosampler

import Autosampler.Robot.Status
import Autosampler.State

/-!
# Snapshots

What an operator gets to see of the changer at one moment.

* `Snapshot`.
-/

namespace Autosampler

/-- The changer at one moment. -/
structure Snapshot where
  state : State
  label : String
  status : Status
  statusCode : UInt16
  tag : Option String
  mountedSample : Option String
  /-- What the slots hold. -/
  samples : List String
  transitionCount : UInt64
  /-- The robot's last report. -/
  driver : Option RobotStatus
deriving DecidableEq

end Autosampler

import Autosampler.Robot.Driver

/-!
# The dummy robot

A robot for trying things out: it accepts every program at once and remembers the last one.
Acknowledgements still have to come from outside.

* `Dummy`, `Dummy.info` — its state, and what it says about itself;
* `Dummy.perform`, `Dummy.status` — orders and status;
* `Dummy.hardware` — the driver.
-/

namespace Autosampler

/-- The state of a dummy robot. -/
structure Dummy where
  /-- The program started last. -/
  loaded : Option String := none
  /-- The programs started so far with their tags, oldest first. -/
  history : List (String × String) := []
deriving DecidableEq

namespace Dummy

/-- What the dummy robot says about itself. -/
def info : DriverInfo := ⟨"Dummy", "dummy", .none⟩

/-- Carry out an order.  Only pausing and going on need a program. -/
def perform (d : Dummy) : Order → Dummy × Answer
  | .run program tag => (⟨some program, d.history ++ [(program, tag)]⟩, .ok ())
  | .stop => (d, .ok ())
  | .pause | .play =>
    (d, if d.loaded.isSome then .ok () else .error "no program loaded")

/-- The status: always idle and ready. -/
def status (d : Dummy) : RobotStatus :=
  { mode := .idle, safety := .normal, remoteControl := true, programRunning := false,
    loadedProgram := d.loaded }

/-- The dummy robot as a driver. -/
def hardware : Hardware Dummy :=
  { perform := perform
    status := fun d => (d, .ok d.status) }

end Dummy

end Autosampler

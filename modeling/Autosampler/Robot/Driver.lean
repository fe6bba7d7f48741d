import Autosampler.Robot.Status
import Autosampler.Time.Pace

/-!
# Robot drivers

A driver carries orders to a robot.  The changer only sees whether an order was accepted.

* `Access`, `DriverInfo`, `Settings` — how a robot is reached, what it is, and what a driver is
  built from;
* `Order`, `Answer` — what can be asked of a robot, and what comes back;
* `Hardware` — a driver with a state of its own.
-/

namespace Autosampler

/-- How a robot is reached. -/
inductive Access where
  /-- Over the network, at `host:port`. -/
  | tcp (addr : String)
  /-- Not at all: there is no robot behind the driver. -/
  | none
deriving DecidableEq

/-- What a driver says about itself. -/
structure DriverInfo where
  manufacturer : String
  model : String
  access : Access
deriving DecidableEq

/-- What a driver is built from. -/
structure Settings where
  access : Access
  /-- The longest wait for a reply. -/
  timeout : Span
  /-- How often to try to reach the robot. -/
  retry : Backoff
deriving DecidableEq

/-- Settings without a robot. -/
def Settings.offline : Settings := ⟨.none, Span.ofMillis 1000, Backoff.usual⟩

/-- Settings for a robot on the network. -/
def Settings.network (addr : String) (timeout : Span) : Settings :=
  ⟨.tcp addr, timeout, Backoff.usual⟩

/-- What can be asked of a robot. -/
inductive Order where
  /-- Load and start a program; the tag names the operation that it belongs to. -/
  | run (program tag : String)
  | stop
  | pause
  /-- Go on with the loaded program. -/
  | play
deriving DecidableEq

/-- Whether an order was accepted; a refusal comes with its reason. -/
abbrev Answer := Except String Unit

/-- A driver whose own state is a `δ`. -/
structure Hardware (δ : Type) where
  /-- Carry out an order. -/
  perform : δ → Order → δ × Answer
  /-- Ask for the status. -/
  status : δ → δ × Except String RobotStatus

end Autosampler

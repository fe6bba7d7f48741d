import Autosampler.Changer.Action
import Autosampler.Robot.Driver

/-!
# The station

The station owns the robot.  It serves requests one at a time, looks at the robot's status in
regular intervals, starts the mounts that switches leave waiting, and publishes a snapshot after
everything that it did or noticed.

* `Rig` — the driver and the pace of the status looks;
* `Station`, `Rig.start` — what the station knows, and its first look at the robot;
* `Rig.poll`, `Rig.elapse` — a look at the status, and the passing of time;
* `Rig.request` — a command of an operator;
* `Rig.settle` — all that follows from changes made by others.
-/

namespace Autosampler

/-! ### What the station knows -/

/-- The fixed part of a station: the driver, and how often to look at the robot's status. -/
structure Rig (δ : Type) where
  hardware : Hardware δ
  polling : Polling

/-- A station whose driver has the state `δ`. -/
structure Station (δ : Type) where
  device : δ
  changer : Changer
  /-- The robot's last report, as long as reports arrive. -/
  known : Option RobotStatus
  /-- What operators see. -/
  published : Snapshot
  /-- The transitions seen so far. -/
  seen : Nat
  /-- The time since the station was set up. -/
  clock : Span
  /-- The time of the next look at the status. -/
  due : Span
  /-- Requests are served. -/
  running : Bool

namespace Station

variable {δ : Type}

/-- Show operators the changer as it is now. -/
def publish (s : Station δ) : Station δ :=
  { s with published := s.changer.snapshot s.known, seen := s.changer.told.length }

/-- Stop serving. -/
def shutdown (s : Station δ) : Station δ := { s with running := false }

/-- Let others change the changer. -/
def adjust (s : Station δ) (changer : Changer) : Station δ := { s with changer := changer }

end Station

namespace Rig

variable {δ : Type}

/-! ### Looking at the robot -/

/-- Look at the robot's status, and fix the time of the next look. -/
def poll (r : Rig δ) (s : Station δ) : Station δ :=
  let working := (Status.of s.changer.state).isBusy
  let (device, report) := r.hardware.status s.device
  { s with
    device := device
    known := report.toOption
    due := s.clock.plus (r.polling.interval working) }.publish

/-- A station at the given time, with its first look at the robot. -/
def start (r : Rig δ) (device : δ) (changer : Changer) (clock : Span) : Station δ :=
  r.poll
    { device := device
      changer := changer
      known := none
      published := changer.snapshot none
      seen := changer.told.length
      clock := clock
      due := clock
      running := true }

/-- Let time pass at once.  A look that fell due meanwhile is made, once. -/
def elapse (r : Rig δ) (s : Station δ) (span : Span) : Station δ :=
  let later := { s with clock := s.clock.plus span }
  if later.running ∧ later.due.nanos ≤ later.clock.nanos then r.poll later else later

/-! ### What follows from changes -/

/-- Start waiting mounts, at most `count` of them, oldest first. -/
def deliver (r : Rig δ) : Nat → Station δ → Station δ
  | 0, s => s
  | count + 1, s =>
    match s.changer.takeChained with
    | none => s
    | some (id, c) =>
      let (device, changer, _) := (c.resume id).perform r.hardware s.device
      deliver r count { s with device := device, changer := changer }.publish

/-- React to the transitions that others caused: start waiting mounts and publish. -/
def settle (r : Rig δ) (s : Station δ) : Station δ :=
  if s.running then
    let delivered := r.deliver s.changer.chained.length s
    if delivered.seen < delivered.changer.told.length then delivered.publish else delivered
  else s

/-! ### Requests -/

/-- Serve a command.  There is no answer when the station does not run any more. -/
def request (r : Rig δ) (s : Station δ) (command : Command) :
    Station δ × Option (Except Error Snapshot) :=
  if s.running then
    let (device, changer, result) := (s.changer.command command).perform r.hardware s.device
    let after := { s with device := device, changer := changer }.publish
    (after, some (result.map fun _ => after.published))
  else (s, none)

end Rig

end Autosampler

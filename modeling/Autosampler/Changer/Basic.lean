import Autosampler.Error
import Autosampler.Snapshot

/-!
# The changer

The changer joins the state machine to the magazine.  It also knows which sample is at the
measurement position, which program was started last and is not yet acknowledged, and which
samples wait for the program that mounts them after a switch.

* `Changer`, `Changer.ofSize` — the whole state, and an empty changer;
* `Changer.fire`, `Changer.restore` — the machine's moves, with what they leave in the changer;
* `Changer.snapshot` — what operators see.
-/

namespace Autosampler

/-- The state of the changer. -/
structure Changer where
  machine : Machine
  magazine : Magazine
  /-- The sample at the measurement position. -/
  mounted : Option String
  /-- The program started last, as long as it is not acknowledged. -/
  pending : Option Program
  /-- Samples that a completed switch is about to mount, oldest first. -/
  chained : List String
  /-- The transitions reported to listeners so far, oldest first. -/
  told : List Transition
deriving DecidableEq

namespace Changer

/-- A changer at home with `n` empty slots. -/
def ofSize (n : Nat) : Changer :=
  { machine := Machine.start, magazine := Magazine.ofSize n, mounted := none, pending := none,
    chained := [], told := [] }

/-- The present state. -/
def state (c : Changer) : State := c.machine.state

/-- The sample that a transition leaves waiting for its mount: the second half of a switch. -/
def chainedBy (t : Transition) : Option String :=
  if t.source = .homeSwitch ∧ t.target = .mounting then t.sample else none

/-- Fire an event.  The answer is the state reached, or the refusal. -/
def fire (c : Changer) (event : Event) (args : FireArgs) : Changer × Except Refusal State :=
  let fired := c.machine.fire event args
  ({ c with
      machine := fired.machine
      chained := c.chained ++ fired.log.filterMap chainedBy
      told := c.told ++ fired.log },
   fired.outcome)

/-- Put the machine into a state by force; no program is pending then. -/
def abort (c : Changer) (state : State) : Changer :=
  { c with machine := c.machine.restore state, pending := none }

/-- The slot of a sample, or the complaint that it is not there. -/
def slotOf (c : Changer) (id : String) : Except Error Nat :=
  match c.magazine.slotOf? id with
  | some slot => .ok slot
  | none => .error (.magazine (.unknownSample id))

/-- What operators see, with the robot's last report. -/
def snapshot (c : Changer) (driver : Option RobotStatus) : Snapshot :=
  { state := c.state
    label := c.state.label
    status := Status.of c.state
    statusCode := (Status.of c.state).code
    tag := c.machine.tag
    mountedSample := c.mounted
    samples := c.magazine.slots
    transitionCount := UInt64.ofNat c.machine.count
    driver := driver }

end Changer

end Autosampler

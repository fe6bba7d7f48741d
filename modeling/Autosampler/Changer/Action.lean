import Autosampler.Changer.Plan
import Autosampler.Robot.Driver

/-!
# Carrying out commands

A command asks at most one thing of the robot.  Until the robot answers, messages may go on
changing the changer, so what follows the answer acts on the changer as it is then.

* `Action` — a finished result, or an order with what follows its answer;
* `Changer.begin`, `Changer.execute` — a plan announced and started, and taken back on refusal;
* `Changer.resume` — the mount that a completed switch left waiting;
* `Changer.reset` — back to a rest state by force;
* `Changer.command` — any command.
-/

namespace Autosampler

/-! ### Actions -/

/-- A piece of work whose result is an `α`. -/
inductive Action (α : Type) where
  /-- Nothing is asked of the robot. -/
  | done (changer : Changer) (result : α)
  /-- An order goes out; `next` takes the changer as it is when the answer arrives. -/
  | ask (changer : Changer) (order : Order) (next : Changer → Answer → Changer × α)

/-- An action carried out: the changer afterwards, the orders that went out, and the result. -/
structure Carried (α : Type) where
  changer : Changer
  orders : List Order
  result : α

namespace Action

variable {α β : Type}

/-- Carry out an action, with the robot's answer arriving at once. -/
def carryOut (answer : Order → Answer) : Action α → Carried α
  | done c r => ⟨c, [], r⟩
  | ask c order next =>
    let (c', r) := next c (answer order)
    ⟨c', [order], r⟩

/-- Carry out an action on a driver with a state of its own. -/
def perform {δ : Type} (hardware : Hardware δ) (device : δ) : Action α → δ × Changer × α
  | done c r => (device, c, r)
  | ask c order next =>
    let (device', answer) := hardware.perform device order
    (device', next c answer)

/-- Change the result. -/
def map (f : α → β) : Action α → Action β
  | done c r => done c (f r)
  | ask c order next => ask c order fun now answer => ((next now answer).1, f (next now answer).2)

end Action

namespace Changer

/-! ### Plans -/

/-- Announce a plan: fire its event and remember its program.  The answer is the state before
and the state after. -/
def begin (c : Changer) (p : Plan) : Changer × Except Error (State × State) :=
  match c.fire p.event p.args with
  | (c', .error refusal) => (c', .error (.transition refusal))
  | (c', .ok state) => ({ c' with pending := some p.program }, .ok (c.state, state))

/-- Announce a plan and start its program; a refusal takes the announcement back. -/
def execute (c : Changer) (p : Plan) : Action (Except Error State) :=
  match c.begin p with
  | (c', .error e) => .done c' (.error e)
  | (c', .ok (previous, state)) =>
    .ask c' (.run p.program.fileName p.tag) fun now answer =>
      match answer with
      | .ok _ => (now, .ok state)
      | .error reason => (now.abort previous, .error (.driver reason))

/-! ### Switches -/

/-- Start the mount that a completed switch left waiting.  Without its sample or with a robot
that refuses, the changer is back at home. -/
def resume (c : Changer) (id : String) : Action (Except Error State) :=
  if c.state = .mounting then
    match c.slotOf id with
    | .error e => .done (c.abort .home) (.error e)
    | .ok slot =>
      .ask { c with pending := some (.mount slot) }
        (.run (Program.mount slot).fileName "mount") fun now answer =>
        match answer with
        | .ok _ => (now, .ok .mounting)
        | .error reason => (now.abort .home, .error (.driver reason))
  else .done c (.error (.transition ⟨.mount, c.state⟩))

/-- The oldest sample left waiting by a switch, and the changer without it. -/
def takeChained (c : Changer) : Option (String × Changer) :=
  match c.chained with
  | [] => none
  | id :: rest => some (id, { c with chained := rest })

/-! ### Reset -/

/-- The sample that falls if the arm is stopped now. -/
def dropped (c : Changer) : Option String :=
  match c.state with
  | .mounting => c.machine.mountTarget
  | .unmounting | .unmountingSwitch => c.mounted
  | _ => none

/-- The rest state reached by force. -/
def restState (state : State) : State :=
  if state.inTransit then .home else if state.mounted then .homeMounted else .home

/-- Back to a rest state by force.  A sample in the gripper counts as dropped: it leaves the
magazine. -/
def reset (c : Changer) : Changer × State :=
  let target := restState c.state
  let cleared : Changer :=
    if c.state.inTransit then
      { c with
        magazine :=
          match c.dropped with
          | some id => c.magazine.without id
          | none => c.magazine
        mounted := none }
    else c
  (cleared.abort target, target)

/-! ### All commands -/

/-- Give an order, and go on with `next` if it was accepted. -/
def order (c : Changer) (o : Order) (next : Changer → Changer) : Action (Except Error Unit) :=
  .ask c o fun now answer =>
    match answer with
    | .ok _ => (next now, .ok ())
    | .error reason => (now, .error (.driver reason))

/-- Carry out a command. -/
def command (c : Changer) : Command → Action (Except Error Unit)
  | .stop => c.order .stop fun now => now.reset.1
  | .reset => c.reset.1.order (.run Program.reset.fileName "reset") id
  | .pause => c.order .pause id
  | .play => c.order .play id
  | other =>
    match c.plan other with
    | (c', .error e) => .done c' (.error e)
    | (c', .ok none) => .done c' (.ok ())
    | (c', .ok (some p)) => (c'.execute p).map fun r => r.map fun _ => ()

end Changer

end Autosampler

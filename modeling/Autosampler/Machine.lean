import Autosampler.Event

/-!
# The state machine

The machine holds the state of the changer, the tag of the transition that led there, and the two
samples that a mount in progress and a switch in progress are about.  Firing an event takes one
transition; a switch that has returned its sample goes on with the mount of the next one at once,
which is a second transition of the same firing.

* `FireArgs`, `Transition`, `Refusal` — what an event carries, what a listener sees, and why an
  event is refused;
* `Machine`, `Machine.start` — the machine, at home and without history;
* `Machine.step?` — a single transition, with the sample whose mount follows it;
* `Machine.fire` — an event with all that follows, and the transitions in order;
* `Machine.restore` — the machine put into a state by force.
-/

namespace Autosampler

/-! ### Firings -/

/-- What a fired event carries. -/
structure FireArgs where
  /-- The tag to record; the name of the event if absent. -/
  tag : Option String := none
  /-- The sample that the event is about. -/
  sample : Option String := none
deriving DecidableEq

/-- A completed transition. -/
structure Transition where
  event : Event
  source : State
  target : State
  tag : String
  sample : Option String
deriving DecidableEq

/-- The reason why an event was not taken: it is not allowed in the state. -/
structure Refusal where
  event : Event
  state : State
deriving DecidableEq

/-- The wording of a refusal. -/
def Refusal.message (r : Refusal) : String :=
  "event '" ++ r.event.id ++ "' is not allowed in state '" ++ r.state.id ++ "'"

/-! ### The machine -/

/-- The state machine of the changer. -/
structure Machine where
  state : State
  /-- The tag recorded by the transition into the state. -/
  tag : Option String
  /-- The sample to mount once the running switch has returned the mounted one. -/
  nextSample : Option String
  /-- The sample of the mount in progress. -/
  mountTarget : Option String
  /-- The number of transitions, forced ones included.  It stands for a counter of 64 bits, which no
  changer runs long enough to exhaust. -/
  count : Nat
  /-- Whether there was a transition since which time could be measured. -/
  timed : Bool
deriving DecidableEq

/-- What came of a fired event. -/
structure Fired where
  /-- The machine afterwards. -/
  machine : Machine
  /-- The transitions taken, in order. -/
  log : List Transition
  /-- The state reached, or the refusal. -/
  outcome : Except Refusal State

namespace Machine

/-- A machine at home, without history. -/
def start : Machine :=
  { state := .home, tag := none, nextSample := none, mountTarget := none, count := 0,
    timed := false }

/-- An event is allowed in the present state. -/
def allows (m : Machine) (event : Event) : Bool := (event.target? m.state).isSome

/-- The events allowed in the present state. -/
def allowed (m : Machine) : List Event := Event.all.filter m.allows

/-- A single transition: the machine after it, the transition, and the sample whose mount has to
follow at once.

Leaving `mounting` forgets the sample being mounted; entering it remembers the sample of the
event.  A switch remembers its sample until the mounted one is back in the magazine. -/
def step? (m : Machine) (event : Event) (args : FireArgs) :
    Option (Machine × Transition × Option String) :=
  (event.target? m.state).map fun target =>
    let tag := args.tag.getD event.id
    let moved : Machine :=
      { m with
        state := target
        tag := some tag
        mountTarget := if m.state = .mounting then none else m.mountTarget
        count := m.count + 1
        timed := true }
    let transition : Transition := ⟨event, m.state, target, tag, args.sample⟩
    match target with
    | .mounting => ({ moved with mountTarget := args.sample }, transition, none)
    | .unmountingSwitch => ({ moved with nextSample := args.sample }, transition, none)
    | .homeSwitch => ({ moved with nextSample := none }, transition, moved.nextSample)
    | _ => (moved, transition, none)

/-- Fire an event.  A refused event leaves the machine as it is. -/
def fire (m : Machine) (event : Event) (args : FireArgs) : Fired :=
  match m.step? event args with
  | none => ⟨m, [], .error ⟨event, m.state⟩⟩
  | some (m₁, t₁, none) => ⟨m₁, [t₁], .ok m₁.state⟩
  | some (m₁, t₁, some sample) =>
    match m₁.step? .mount ⟨some Event.mount.id, some sample⟩ with
    | none => ⟨m₁, [t₁], .error ⟨.mount, m₁.state⟩⟩
    | some (m₂, t₂, _) => ⟨m₂, [t₁, t₂], .ok m₂.state⟩

/-- Put the machine into a state by force: tag and samples are forgotten. -/
def restore (m : Machine) (state : State) : Machine :=
  { state := state, tag := none, nextSample := none, mountTarget := none,
    count := m.count + 1, timed := true }

end Machine

/-! ### Listeners -/

/-- The reports of a log of transitions to listeners: each transition goes to all of them, in
the order in which they were added, before the next one is reported. -/
def Transition.reports {α : Type} (listeners : List α) (log : List Transition) :
    List (α × Transition) :=
  log.flatMap fun t => listeners.map fun l => (l, t)

end Autosampler

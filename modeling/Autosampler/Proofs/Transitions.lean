import Autosampler.Changer.Basic

/-!
# Firing in closed form

A transition that does not end in `homeSwitch` is one record update.  The completed switch is the
only firing with two transitions, and it is two of these updates in a row.

* `Event.mem_transitions` — the destinations of an event are listed;
* `Machine.enter` — the machine after a single transition;
* `Machine.fire_refused`, `Machine.fire_of_target`, `Machine.fire_switch` — the three things that
  come of firing an event;
* `Changer.arrive`, `Changer.fire_of_target`, `Changer.fire_switch` — the same on the changer.
-/

namespace Autosampler

/-- The destination of an event is one of its listed transitions. -/
theorem Event.mem_transitions {event : Event} {source target : State}
    (h : event.target? source = some target) : (source, target) ∈ event.transitions := by
  obtain ⟨move, hfind, rfl⟩ := Option.map_eq_some_iff.mp h
  have hsource : move.1 = source := by simpa using List.find?_some hfind
  rw [← hsource]
  exact List.mem_of_find?_eq_some hfind

/-! ### The machine -/

namespace Machine

variable {m : Machine} {event : Event} {args : FireArgs} {state : State}

/-- The machine after a single transition into `state`. -/
def enter (m : Machine) (state : State) (tag : String) (sample : Option String) : Machine :=
  { state := state
    tag := some tag
    nextSample := if state = .unmountingSwitch then sample else m.nextSample
    mountTarget :=
      if state = .mounting then sample
      else if m.state = .mounting then none else m.mountTarget
    count := m.count + 1
    timed := true }

@[simp] theorem enter_state (tag : String) (sample : Option String) :
    (m.enter state tag sample).state = state := rfl

/-- An event that is not allowed leaves the machine as it is. -/
theorem fire_refused (h : event.target? m.state = none) :
    m.fire event args = ⟨m, [], .error ⟨event, m.state⟩⟩ := by
  simp only [fire, step?, h, Option.map_none]

theorem step?_of_target (h : event.target? m.state = some state) (hs : state ≠ .homeSwitch) :
    m.step? event args = some (m.enter state (args.tag.getD event.id) args.sample,
      ⟨event, m.state, state, args.tag.getD event.id, args.sample⟩, none) := by
  simp only [step?, h, Option.map_some]
  cases state <;> simp_all [enter]

/-- An allowed event that does not complete a switch is one transition. -/
theorem fire_of_target (h : event.target? m.state = some state) (hs : state ≠ .homeSwitch) :
    m.fire event args = ⟨m.enter state (args.tag.getD event.id) args.sample,
      [⟨event, m.state, state, args.tag.getD event.id, args.sample⟩], .ok state⟩ := by
  rw [fire, step?_of_target h hs]
  rfl

/-- The machine after a completed switch to `next`. -/
def switched (m : Machine) (next : String) : Machine :=
  ({ m.enter .homeSwitch Event.programFinished.id none with nextSample := none } : Machine).enter
    .mounting Event.mount.id (some next)

/-- A completed switch goes on with the mount of the remembered sample. -/
theorem fire_switch {next : String} (hs : m.state = .unmountingSwitch)
    (hn : m.nextSample = some next) :
    m.fire .programFinished {} = ⟨m.switched next,
      [⟨.programFinished, .unmountingSwitch, .homeSwitch, Event.programFinished.id, none⟩,
       ⟨.mount, .homeSwitch, .mounting, Event.mount.id, some next⟩], .ok .mounting⟩ := by
  have h : Event.programFinished.target? .unmountingSwitch = some .homeSwitch := by decide
  simp only [fire, step?, hs, h, Option.map_some, hn]
  rfl

end Machine

/-! ### The changer -/

namespace Changer

variable {c : Changer} {event : Event} {args : FireArgs} {state : State}

/-- The changer after a single transition into `state`. -/
def arrive (c : Changer) (event : Event) (state : State) (tag : String) (sample : Option String) :
    Changer :=
  { c with
    machine := c.machine.enter state tag sample
    told := c.told ++ [⟨event, c.state, state, tag, sample⟩] }

theorem fire_refused (h : event.target? c.state = none) :
    c.fire event args = (c, .error ⟨event, c.state⟩) := by
  simp only [fire, Machine.fire_refused (m := c.machine) h, List.filterMap_nil, List.append_nil]
  rfl

/-- Outside a switch nothing is left waiting for its mount. -/
theorem fire_of_target (h : event.target? c.state = some state) (hs : state ≠ .homeSwitch)
    (hc : c.state ≠ .homeSwitch) :
    c.fire event args
      = (c.arrive event state (args.tag.getD event.id) args.sample, .ok state) := by
  have hn : chainedBy ⟨event, c.machine.state, state, args.tag.getD event.id, args.sample⟩ = none :=
    if_neg fun hboth => hc hboth.1
  simp only [fire, Machine.fire_of_target (m := c.machine) h hs, List.filterMap_cons, hn,
    List.filterMap_nil, List.append_nil]
  rfl

/-- The changer after a completed switch to `next`, which waits for its mount. -/
def switched (c : Changer) (next : String) : Changer :=
  { c with
    machine := c.machine.switched next
    chained := c.chained ++ [next]
    told := c.told ++
      [⟨.programFinished, .unmountingSwitch, .homeSwitch, Event.programFinished.id, none⟩,
       ⟨.mount, .homeSwitch, .mounting, Event.mount.id, some next⟩] }

theorem fire_switch {next : String} (hs : c.state = .unmountingSwitch)
    (hn : c.machine.nextSample = some next) :
    c.fire .programFinished {} = (c.switched next, .ok .mounting) := by
  simp only [fire, Machine.fire_switch (m := c.machine) hs hn]
  rfl

end Changer

end Autosampler

import Autosampler.Proofs.Run

/-!
# The machine, the measurement position and the pending program agree

State machine, mounted sample and pending program are three stores that different steps change.
`Consistent` says how they fit together between any two steps; every step keeps it, so every run
from an empty changer has it throughout.

* `State.occupied`, `State.Runs` — what a state says about the measurement position and about the
  pending program;
* `Consistent` — the invariant;
* `Consistent.of_same`, `Consistent.of_enter`, `Consistent.of_restore` — three ways to keep it;
* `Consistent.hear`, `Consistent.command`, `Consistent.deliver` — one lemma per kind of step;
* `consistent_run` — the invariant over whole runs.
-/

namespace Autosampler

/-! ### What a state says -/

namespace State

/-- A sample is at the measurement position, or on its way back from there. -/
def occupied : State → Bool
  | unmounting | unmountingSwitch => true
  | state => state.mounted

/-- The programs that can be pending in a state. -/
def Runs : State → Program → Prop
  | loading, .load _ | loadingMounted, .load _ => True
  | unloading, .unload _ | unloadingMounted, .unload _ => True
  | mounting, .mount _ => True
  | unmounting, .unmount _ | unmountingSwitch, .unmount _ => True
  | runningProgram, .free _ => True
  | state, .scan => state.scanning = true
  | _, _ => False

theorem occupied_of_scanning {state : State} (h : state.scanning = true) :
    state.occupied = state.mounted := by
  cases state <;> simp_all [scanning, occupied]

theorem runs_of_scanning {state : State} {program : Program} (h : state.scanning = true) :
    state.Runs program ↔ program = .scan := by
  cases program <;> cases state <;> simp_all [scanning, Runs]

end State

/-- The stores of the changer fit together. -/
structure Consistent (c : Changer) : Prop where
  /-- A completed switch does not stay at home. -/
  settled : c.state ≠ .homeSwitch
  /-- A sample is mounted exactly in the states that say so. -/
  mounted : c.mounted.isSome ↔ c.state.occupied
  /-- A sample is being mounted exactly in the state of that name. -/
  target : c.machine.mountTarget.isSome ↔ c.state = .mounting
  /-- A sample is next exactly during the first half of a switch. -/
  next : c.machine.nextSample.isSome ↔ c.state = .unmountingSwitch
  tag : c.state.Wears c.machine.tag
  /-- The pending program, if there is one, is one that the state stands for; at rest there is
  none. -/
  pending : ∀ program, c.pending = some program → c.state.Runs program

namespace Consistent

variable {c c' : Changer} {state : State} {sample : Option String}

theorem pending_of_rest (h : Consistent c) (hr : c.state.atRest = true) : c.pending = none := by
  cases hp : c.pending with
  | none => rfl
  | some program =>
    have hruns := h.pending program hp
    rcases State.eq_of_atRest hr with hs | hs <;> rw [hs] at hruns <;>
      cases program <;> cases hruns

/-! ### Three ways to keep the invariant -/

/-- Dropping the pending program, or changing what the invariant does not look at. -/
theorem of_same (h : Consistent c) (hm : c'.machine = c.machine) (hmounted : c'.mounted = c.mounted)
    (hp : c'.pending = c.pending ∨ c'.pending = none) : Consistent c' where
  settled := by rw [Changer.state, hm]; exact h.settled
  mounted := by rw [Changer.state, hm, hmounted]; exact h.mounted
  target := by rw [Changer.state, hm]; exact h.target
  next := by rw [Changer.state, hm]; exact h.next
  tag := by rw [Changer.state, hm]; exact h.tag
  pending := by
    intro program hprogram
    rw [Changer.state, hm]
    rcases hp with hp | hp
    · exact h.pending program (hp ▸ hprogram)
    · rw [hp] at hprogram; cases hprogram

/-- One transition, with the books brought up to date for the new state. -/
theorem of_enter {tag : String} (h : Consistent c)
    (hm : c'.machine = c.machine.enter state tag sample)
    (hfrom : c.state ≠ .unmountingSwitch) (hs : state ≠ .homeSwitch)
    (hsample : state = .mounting ∨ state = .unmountingSwitch → sample.isSome)
    (hmounted : c'.mounted.isSome ↔ state.occupied) (htag : state.Wears (some tag))
    (hp : ∀ program, c'.pending = some program → state.Runs program) : Consistent c' where
  settled := by rw [Changer.state, hm]; exact hs
  mounted := by rw [Changer.state, hm]; exact hmounted
  target := by
    have htarget := h.target
    rw [Changer.state, hm]
    by_cases hto : state = .mounting
    · simp [Machine.enter, hto, hsample (Or.inl hto)]
    · by_cases hleave : c.machine.state = .mounting
      · simp [Machine.enter, hto, hleave]
      · simp_all [Machine.enter, Changer.state]
  next := by
    have hnext := h.next
    rw [Changer.state, hm]
    by_cases hto : state = .unmountingSwitch
    · simp [Machine.enter, hto, hsample (Or.inr hto)]
    · simp_all [Machine.enter, Changer.state]
  tag := by rw [Changer.state, hm]; exact htag
  pending := by rw [Changer.state, hm]; exact hp

/-- A forced rest state, with nothing pending. -/
theorem of_restore (state : State) (hm : c'.machine = c.machine.restore state)
    (hs : state.atRest = true)
    (hmounted : c'.mounted.isSome ↔ state = .homeMounted) (hp : c'.pending = none) :
    Consistent c' := by
  have hcases := State.eq_of_atRest hs
  constructor
  all_goals rw [Changer.state, hm]
  · rcases hcases with rfl | rfl <;> exact State.noConfusion
  · rcases hcases with rfl | rfl <;> simp_all [Machine.restore, State.occupied, State.mounted]
  · rcases hcases with rfl | rfl <;> simp [Machine.restore]
  · rcases hcases with rfl | rfl <;> simp [Machine.restore]
  · rcases hcases with rfl | rfl <;> exact Or.inl rfl
  · intro program hprogram
    rw [hp] at hprogram
    cases hprogram

end Consistent

theorem Consistent.advance {c : Changer} {event : Event} (h : Consistent c)
    (he : event.scans = true) : Consistent (c.advance event) := by
  rcases Changer.advance_cases he h.settled with ⟨-, hsame⟩ | ⟨state, htarget, hmoved⟩
  · rw [hsame]; exact h
  obtain ⟨hfrom, hto, hside⟩ := Event.scanning_of_target he htarget
  have htag : c.machine.tag = some Event.scanSamples.id := by
    have hwears := h.tag
    rw [State.Wears, State.workTag?_of_scanning hfrom] at hwears
    exact hwears
  rw [hmoved]
  refine h.of_enter rfl ?_ ?_ ?_ ?_ ?_ ?_
  · intro heq; rw [heq] at hfrom; cases hfrom
  · intro heq; rw [heq] at hto; cases hto
  · rintro (rfl | rfl) <;> cases hto
  · rw [State.occupied_of_scanning hto, hside, ← State.occupied_of_scanning hfrom]
    exact h.mounted
  · rw [State.Wears, State.workTag?_of_scanning hto, htag]
    rfl
  · intro program hp
    rw [State.runs_of_scanning hto, ← State.runs_of_scanning hfrom]
    exact h.pending program hp

namespace Consistent

variable {c : Changer}

theorem next_of_switch (h : Consistent c) (hs : c.state = .unmountingSwitch) :
    ∃ next, c.machine.nextSample = some next := Option.isSome_iff_exists.mp (h.next.mpr hs)

theorem target_of_mounting (h : Consistent c) (hs : c.state = .mounting) :
    ∃ id, c.machine.mountTarget = some id := Option.isSome_iff_exists.mp (h.target.mpr hs)

theorem mounted_eq_none (h : Consistent c) (hs : c.state.occupied = false) : c.mounted = none := by
  have := h.mounted
  simp_all

end Consistent

theorem consistent_switched (c : Changer) (next : String) :
    Consistent ({ c with mounted := none, pending := none }.switched next) where
  settled := State.noConfusion
  mounted := by simp [Changer.switched, Changer.state, Machine.switched, State.occupied,
    State.mounted]
  target := by simp [Changer.switched, Changer.state, Machine.switched, Machine.enter]
  next := by simp [Changer.switched, Changer.state, Machine.switched, Machine.enter]
  tag := rfl
  pending := by
    intro program hp
    cases hp

/-- The state that a plan leads to keeps the side of the measurement position, and it stands for the
plan's program and tag. -/
theorem Planned.goal_spec {c : Changer} {p : Plan} (h : Planned c p) :
    (p.goal c.state).occupied = c.state.occupied ∧ (p.goal c.state).workTag? = some p.tag ∧
      (p.goal c.state).Runs p.program ∧
      (p.goal c.state = .mounting ∨ p.goal c.state = .unmountingSwitch → p.sample.isSome) := by
  have hcases := h.state_cases
  cases h with
  | load _ _ => rcases hcases with hs | hs <;> rw [hs] <;> exact ⟨rfl, rfl, trivial, fun _ => rfl⟩
  | unload _ _ _ =>
    rcases hcases with hs | hs <;> rw [hs] <;> exact ⟨rfl, rfl, trivial, fun _ => rfl⟩
  | scan _ =>
    rcases hcases with hs | hs <;> rw [hs] <;> refine ⟨rfl, rfl, rfl, ?_⟩ <;>
      rintro (hto | hto) <;> cases hto
  | mount home _ => rw [home]; exact ⟨rfl, rfl, trivial, fun _ => rfl⟩
  | switch home _ _ _ _ => rw [home]; exact ⟨rfl, rfl, trivial, fun _ => rfl⟩
  | unmount home _ _ => rw [home]; exact ⟨rfl, rfl, trivial, fun _ => rfl⟩
  | run home =>
    rw [home]
    refine ⟨rfl, rfl, trivial, ?_⟩
    rintro (hto | hto) <;> cases hto

/-! ### Good acknowledgements -/

/-- What a good acknowledgement can come to. -/
inductive Acknowledged (c : Changer) : Changer → Prop
  /-- Nothing runs, and nothing happens. -/
  | rest (rest : c.state.atRest = true) : Acknowledged c c
  /-- The run along the slots goes on, without its program in the books. -/
  | early (scanning : c.state.scanning = true) : Acknowledged c c.dropPending
  /-- The first half of a switch is over. -/
  | switch {next : String} (switching : c.state = .unmountingSwitch)
      (waits : c.machine.nextSample = some next) :
      Acknowledged c ({ c with mounted := none, pending := none }.switched next)
  /-- A program is over, and the measurement position is empty. -/
  | home (busy : c.state.atRest = false) (noSwitch : c.state ≠ .unmountingSwitch)
      (noMount : c.state ≠ .mounting) (side : c.state.mounted = false) :
      Acknowledged c (c.acknowledge.arrive .programFinished .home Event.programFinished.id none)
  /-- A program is over, and a sample is at the measurement position. -/
  | homeMounted (busy : c.state.atRest = false)
      (side : c.state = .mounting ∨ c.state.mounted = true) :
      Acknowledged c
        (c.acknowledge.arrive .programFinished .homeMounted Event.programFinished.id none)

namespace Consistent

variable {c : Changer} {label : Option String}

/-- A good acknowledgement is one of the five. -/
theorem acknowledged (h : Consistent c) (label : Option String) :
    Acknowledged c (c.hear .ok label) := by
  by_cases hr : c.state.atRest = true
  · rw [Changer.hear_ok_of_rest h.tag hr]
    exact .rest hr
  have hbusy : c.state.atRest = false := by simpa using hr
  by_cases hswitch : c.state = .unmountingSwitch
  · obtain ⟨next, hn⟩ := h.next_of_switch hswitch
    rw [Changer.hear_ok_of_switch h.tag hswitch hn]
    exact .switch hswitch hn
  cases ht : Event.programFinished.target? c.state with
  | none =>
    have hscan : c.state.scanning = true := by
      have hsettled := h.settled
      cases hs : c.state <;> simp_all [State.atRest] <;> first | rfl | cases ht
    rw [Changer.hear_ok_of_early h.tag ht, Changer.acknowledge_of_scanning hscan]
    exact .early hscan
  | some state =>
    rcases Event.rest_of_finished ht hswitch with ⟨rfl, hne, hside⟩ | ⟨rfl, hside⟩
    · rw [Changer.hear_ok_of_target h.tag h.settled ht State.noConfusion]
      exact .home hbusy hswitch hne hside
    · rw [Changer.hear_ok_of_target h.tag h.settled ht State.noConfusion]
      exact .homeMounted hbusy hside

/-- After a finished program the machine is at rest, and the books agree with it. -/
theorem finished {rest : State} (h : Consistent c) (hbusy : c.state.atRest = false)
    (hswitch : c.state ≠ .unmountingSwitch) (hrest : rest.atRest = true)
    (hmounted : c.acknowledge.mounted.isSome ↔ rest.occupied) :
    Consistent (c.acknowledge.arrive .programFinished rest Event.programFinished.id none) := by
  refine h.of_enter (by rw [← c.acknowledge_machine]; rfl) hswitch ?_ ?_ hmounted ?_ ?_
  · rintro rfl; cases hrest
  · rintro (rfl | rfl) <;> cases hrest
  · cases rest <;> cases hrest <;> exact Or.inr rfl
  · intro program hp
    change c.acknowledge.pending = some program at hp
    rw [Changer.acknowledge_pending hbusy h.settled] at hp
    cases hp

theorem hear_ok (h : Consistent c) : Consistent (c.hear .ok label) := by
  have hb := h.mounted
  have hupshot := h.acknowledged label
  generalize c.hear .ok label = after at hupshot
  cases hupshot with
  | rest _ => exact h
  | early _ => exact h.of_same rfl rfl (Or.inr rfl)
  | switch _ _ => exact consistent_switched c _
  | home hbusy hswitch hne hside =>
    refine h.finished hbusy hswitch rfl ?_
    rw [Changer.acknowledge_mounted]
    cases hs : c.state <;> simp_all [State.occupied, State.mounted]
  | homeMounted hbusy hside =>
    have hswitch : c.state ≠ .unmountingSwitch := by
      intro hs
      rw [hs] at hside
      rcases hside with hside | hside <;> cases hside
    refine h.finished hbusy hswitch rfl ?_
    rw [Changer.acknowledge_mounted]
    rcases hside with hs | hside
    · obtain ⟨id, hid⟩ := h.target_of_mounting hs
      simp [hs, hid, State.occupied, State.mounted]
    · cases hs : c.state <;> simp_all [State.occupied, State.mounted]

/-- The acknowledgement of a mount brings the sample to the measurement position and leaves the
magazine alone. -/
theorem hear_ok_of_mounting (h : Consistent c) (hs : c.state = .mounting) {id : String}
    (hid : c.machine.mountTarget = some id) (label : Option String) :
    (c.hear .ok label).state = .homeMounted ∧ (c.hear .ok label).mounted = some id ∧
      (c.hear .ok label).magazine = c.magazine := by
  have hfinished : Event.programFinished.target? c.state = some .homeMounted := by
    rw [hs]; decide
  rw [Changer.hear_ok_of_target h.tag h.settled hfinished State.noConfusion]
  have hack : c.acknowledge = { c.dropPending with mounted := some id } := by
    simp only [Changer.acknowledge, hs, Changer.finishMount, hid]
  rw [hack]
  exact ⟨rfl, rfl, rfl⟩

/-- A mount that goes on has not been acknowledged. -/
theorem ne_ok_of_mounting (h : Consistent c) (hs : c.state = .mounting) {message : Message}
    (hstays : (c.hear message label).state = .mounting) : message ≠ .ok := by
  rintro rfl
  obtain ⟨id, hid⟩ := h.target_of_mounting hs
  rw [(h.hear_ok_of_mounting hs hid label).1] at hstays
  cases hstays

/-! ### All steps -/

/-- A message of the robot keeps the stores together. -/
theorem hear (h : Consistent c) (message : Message) (label : Option String) :
    Consistent (c.hear message label) := by
  cases message with
  | slot slot present =>
    rw [Changer.hear_slot]
    split
    · exact h
    · obtain ⟨magazine, hnoted⟩ := c.notePresence_fst (slot - 1) present
      have hsame : Consistent (c.notePresence (slot - 1) present).1 := by
        rw [hnoted]
        exact h.of_same rfl rfl (Or.inl rfl)
      exact hsame.advance (Changer.stepAfter_scans slot _ rfl)
  | qr slot =>
    rw [Changer.hear_code]
    split
    · exact h
    split
    · obtain ⟨magazine, hnoted⟩ := (c.advance .atScanPos).noteLabel_eq (slot - 1) label
      have hsame : Consistent ((c.advance .atScanPos).noteLabel (slot - 1) label) := by
        rw [hnoted]
        exact (h.advance rfl).of_same rfl rfl (Or.inl rfl)
      exact hsame.advance (Changer.stepAfter_scans slot _ rfl)
    · exact h
  | get key => exact h
  | ok => exact h.hear_ok
  | error text =>
    rcases Changer.hear_error_eq (c := c) text label with heq | heq
    · rw [heq]; exact h
    · rw [heq]; exact h.of_same rfl rfl (Or.inr rfl)

/-- The announcement of a plan keeps the stores together, also if the plan was made for another
changer in the same state. -/
theorem announced {d : Changer} {p : Plan} (h : Consistent c) (hp : Planned d p)
    (hd : d.state = c.state) : Consistent (c.started p) := by
  obtain ⟨hside, htag, hruns, hsample⟩ := hp.goal_spec
  have hcases := hp.state_cases
  have hto := hp.target.2
  rw [hd] at hside htag hruns hsample hcases hto
  have hfrom : c.state ≠ .unmountingSwitch := by
    rcases hcases with hs | hs <;> rw [hs] <;> exact State.noConfusion
  refine h.of_enter rfl hfrom hto hsample ?_ ?_ ?_
  · rw [hside]; exact h.mounted
  · rw [State.Wears, htag]
  · intro program hpending
    cases hpending
    exact hruns

theorem started {p : Plan} (h : Consistent c) (hp : Planned c p) : Consistent (c.started p) :=
  h.announced hp rfl

/-- A forced return to the rest state on the side of the mounted sample keeps the stores
together. -/
theorem abort {rest : State} (hr : rest.atRest = true)
    (hmounted : c.mounted.isSome ↔ rest = .homeMounted) : Consistent (c.abort rest) :=
  of_restore rest rfl hr hmounted rfl

theorem reset (h : Consistent c) : Consistent c.reset.1 := by
  have hb := h.mounted
  refine of_restore (Changer.restState c.state) rfl ?_ ?_ rfl
  · cases c.state <;> rfl
  · simp only [Changer.reset, Changer.abort]
    cases hs : c.state <;>
      simp_all [Changer.restState, State.inTransit, State.mounted, State.occupied]

theorem turn (h : Consistent c) (cursor : Nat) : Consistent (c.turn cursor) :=
  h.of_same rfl rfl (Or.inl rfl)

/-- A command keeps the stores together, whatever the robot answers. -/
theorem command (h : Consistent c) (command : Command) (answer : Order → Answer) :
    Consistent ((c.command command).carryOut answer).changer := by
  have hupshot := Changer.command_upshot c command answer
  generalize (c.command command).carryOut answer = carried at hupshot
  cases hupshot with
  | quiet cursor _ => exact h.turn cursor
  | reset _ => exact h.reset
  | started _ planned _ => exact (h.turn _).started planned
  | refused _ planned _ =>
    refine abort planned.atRest ?_
    have hb := h.mounted
    rcases planned.state_cases with hs | hs <;> change c.state = _ at hs <;>
      rw [hs] at hb ⊢ <;> exact hb.trans (by decide)

/-- A delivery keeps the stores together, whatever the robot answers. -/
theorem deliver (h : Consistent c) (answer : Order → Answer) :
    Consistent (c.step (.deliver answer)) := by
  have huntied : Consistent c.untied := h.of_same rfl rfl (Or.inl rfl)
  have hempty (hs : c.state = .mounting) : c.mounted.isSome ↔ State.home = .homeMounted := by
    have hb := h.mounted
    rw [hs] at hb
    exact hb.trans (by decide)
  have hupshot := c.delivered answer
  generalize c.step (.deliver answer) = after, c.calls (.deliver answer) = asked at hupshot
  cases hupshot with
  | nothing _ => exact h
  | aside _ _ => exact huntied
  | missing _ mounting _ => exact abort rfl (hempty mounting)
  | started _ mounting _ _ =>
    refine { huntied with pending := ?_ }
    intro program hp
    cases hp
    show c.state.Runs _
    rw [mounting]
    trivial
  | refused _ mounting _ _ => exact abort rfl (hempty mounting)

theorem step (h : Consistent c) (move : Move) : Consistent (c.step move) := by
  cases move with
  | command command answer => exact h.command command answer
  | message message label => exact h.hear message label
  | deliver answer => exact h.deliver answer

theorem run (h : Consistent c) (moves : List Move) : Consistent (c.run moves) :=
  Changer.run_induction (P := Consistent) (fun _ move hc => hc.step move) h moves

/-- An empty changer at home. -/
theorem ofSize (n : Nat) : Consistent (Changer.ofSize n) where
  settled := State.noConfusion
  mounted := by
    show (none : Option String).isSome ↔ State.home.occupied
    decide
  target := by
    show (none : Option String).isSome ↔ State.home = .mounting
    decide
  next := by
    show (none : Option String).isSome ↔ State.home = .unmountingSwitch
    decide
  tag := Or.inl rfl
  pending := by
    intro program hp
    cases hp

end Consistent

/-- **The stores agree.**  Whatever happens to an empty changer, in whatever order, its state, its
tag, the mounted sample, the samples of mounts and switches, and the pending program fit together
after every step; at rest, no program is pending. -/
theorem consistent_run (n : Nat) (moves : List Move) :
    let c := (Changer.ofSize n).run moves
    Consistent c ∧ (c.state.atRest = true → c.pending = none) := by
  have h := (Consistent.ofSize n).run moves
  exact ⟨h, h.pending_of_rest⟩

end Autosampler

import Autosampler.Changer.Action
import Autosampler.Proofs.Transitions

/-!
# What a command can do

A command that moves the arm does one of seven things, and it does it from home with everything
in place.  Carried out, any command is quiet, resets the changer, starts its plan, or takes the
plan back at once.

* `Planned` — the seven plans, each with what was checked for it;
* `Changer.planned_of_plan` — every plan of a command is one of them;
* `Planned.target` — the event of a plan is allowed;
* `Changer.turn` — a changer whose round through the slots stands somewhere else;
* `Changer.started` — the changer after the announcement of a plan;
* `Changer.command_of_plan`, `Changer.command_of_plan_error` — a command with a plan of its own;
* `Changer.Upshot`, `Changer.command_upshot` — the four things that come of a command.
-/

namespace Autosampler

/-! ### Plans -/

/-- What a plan says about the changer that it was made for. -/
inductive Planned (c : Changer) : Plan → Prop
  | load {slot : Nat} (rest : c.state.atRest = true) (free : c.magazine.firstFree? = some slot) :
      Planned c ⟨.load slot, .load, "load", some (placeholder slot)⟩
  | unload {slot : Nat} {id : String} (rest : c.state.atRest = true) (here : c.mounted ≠ some id)
      (stored : c.magazine.slotOf? id = some slot) :
      Planned c ⟨.unload slot, .unload, "unload", some id⟩
  | scan (rest : c.state.atRest = true) :
      Planned c ⟨.scan, .scanSamples, Event.scanSamples.id, none⟩
  | mount {slot : Nat} {id : String} (home : c.state = .home)
      (stored : c.magazine.slotOf? id = some slot) :
      Planned c ⟨.mount slot, .mount, "mount", some id⟩
  | switch {slot other : Nat} {held id : String} (home : c.state = .homeMounted)
      (mounted : c.mounted = some held) (ne : held ≠ id)
      (stored : c.magazine.slotOf? held = some slot) (next : c.magazine.slotOf? id = some other) :
      Planned c ⟨.unmount slot, .mount, switchTag, some id⟩
  | unmount {slot : Nat} {held : String} (home : c.state = .homeMounted)
      (mounted : c.mounted = some held) (stored : c.magazine.slotOf? held = some slot) :
      Planned c ⟨.unmount slot, .unmount, "unmount", some held⟩
  | run {name : String} (home : c.state = .home) :
      Planned c ⟨.free name, .runProgram, Event.runProgram.id, none⟩

/-- The state into which the event of a plan leads. -/
def Plan.goal (p : Plan) (rest : State) : State := (p.event.target? rest).getD rest

namespace Planned

variable {c : Changer} {p : Plan}

theorem atRest (h : Planned c p) : c.state.atRest = true := by
  cases h with
  | load rest _ => exact rest
  | unload rest _ _ => exact rest
  | scan rest => exact rest
  | mount home _ => rw [home]; rfl
  | switch home _ _ _ _ => rw [home]; rfl
  | unmount home _ _ => rw [home]; rfl
  | run home => rw [home]; rfl

theorem state_cases (h : Planned c p) : c.state = .home ∨ c.state = .homeMounted :=
  State.eq_of_atRest h.atRest

/-- The event of a plan is allowed, and it does not complete a switch. -/
theorem target (h : Planned c p) :
    p.event.target? c.state = some (p.goal c.state) ∧ p.goal c.state ≠ .homeSwitch := by
  have hcases := h.state_cases
  cases h with
  | load _ _ => rcases hcases with hs | hs <;> rw [hs] <;> exact ⟨rfl, State.noConfusion⟩
  | unload _ _ _ => rcases hcases with hs | hs <;> rw [hs] <;> exact ⟨rfl, State.noConfusion⟩
  | scan _ => rcases hcases with hs | hs <;> rw [hs] <;> exact ⟨rfl, State.noConfusion⟩
  | mount home _ => rw [home]; exact ⟨rfl, State.noConfusion⟩
  | switch home _ _ _ _ => rw [home]; exact ⟨rfl, State.noConfusion⟩
  | unmount home _ _ => rw [home]; exact ⟨rfl, State.noConfusion⟩
  | run home => rw [home]; exact ⟨rfl, State.noConfusion⟩

end Planned

namespace Changer

variable {c c' : Changer} {p : Plan} {id name : String}

theorem atRest_of_requireRest {u : Unit} (h : c.requireRest = .ok u) : c.state.atRest = true := by
  unfold requireRest at h
  split at h
  · assumption
  · cases h

theorem slotOf_eq_ok {slot : Nat} : c.slotOf id = .ok slot ↔ c.magazine.slotOf? id = some slot := by
  unfold slotOf
  cases c.magazine.slotOf? id <;> simp

theorem planned_of_planLoad (h : c.planLoad = .ok p) : Planned c p := by
  simp only [planLoad, bind, Except.bind] at h
  split at h
  · cases h
  · rename_i hr
    split at h
    · cases h
    · rename_i hfree
      cases h
      exact .load (atRest_of_requireRest hr) hfree

theorem planned_of_planUnload (h : c.planUnload id = .ok p) : Planned c p := by
  simp only [planUnload, bind, Except.bind] at h
  split at h
  · cases h
  · rename_i hr
    split at h
    · cases h
    · rename_i hne
      split at h
      · cases h
      · rename_i hslot
        cases h
        exact .unload (atRest_of_requireRest hr) hne (slotOf_eq_ok.mp hslot)

theorem planned_of_planScan (h : c.planScan = .ok p) : Planned c p := by
  simp only [planScan, bind, Except.bind] at h
  split at h
  · cases h
  · rename_i hr
    cases h
    exact .scan (atRest_of_requireRest hr)

theorem planned_of_planMount (h : c.planMount id = .ok p) : Planned c p := by
  simp only [planMount, bind, Except.bind] at h
  split at h
  · cases h
  rename_i hr
  split at h
  · cases h
  rename_i hslot
  split at h
  · rename_i hhome
    cases h
    exact .mount hhome (slotOf_eq_ok.mp hslot)
  rename_i hhome
  split at h
  · cases h
  rename_i held hheld
  split at h
  · cases h
  rename_i hne
  split at h
  · cases h
  rename_i hstored
  cases h
  have hstate : c.state = .homeMounted :=
    (State.eq_of_atRest (atRest_of_requireRest hr)).resolve_left hhome
  exact .switch hstate hheld hne (slotOf_eq_ok.mp hstored) (slotOf_eq_ok.mp hslot)

theorem planned_of_planUnmount (h : c.planUnmount = .ok p) : Planned c p := by
  simp only [planUnmount, bind, Except.bind] at h
  split at h
  · cases h
  split at h
  · rename_i hstate hheld
    split at h
    · cases h
    rename_i hstored
    cases h
    exact .unmount hstate hheld (slotOf_eq_ok.mp hstored)
  · cases h

/-- A checked name gives a free program. -/
theorem free_of_named {program : Program} (h : Program.named name = .ok program) :
    ∃ trimmed, program = .free trimmed := by
  unfold Program.named at h
  dsimp only at h
  split at h
  · cases h
  · cases h
  · split at h
    · cases h
    · cases h
      exact ⟨_, rfl⟩

theorem planned_of_planRun (h : c.planRun name = .ok p) : Planned c p := by
  unfold planRun at h
  split at h
  · rename_i hhome
    split at h
    · rename_i program hnamed
      obtain ⟨trimmed, rfl⟩ := free_of_named hnamed
      cases h
      exact .run hhome
    · cases h
  · cases h

/-! ### The round through the slots -/

/-- The changer with its round at slot `cursor`. -/
def turn (c : Changer) (cursor : Nat) : Changer :=
  { c with magazine := { c.magazine with cursor := cursor } }

theorem turn_self (c : Changer) : c.turn c.magazine.cursor = c := rfl

theorem next_fst (m : Magazine) : ∃ cursor, m.next.1 = { m with cursor := cursor } := by
  unfold Magazine.next
  split
  · exact ⟨m.cursor, rfl⟩
  · exact ⟨_, rfl⟩

/-- Choosing the next sample moves the round and nothing else. -/
theorem chooseNext_fst (mounted : Option String) (tries : Nat) (m : Magazine) :
    ∃ cursor, (chooseNext mounted tries m).1 = { m with cursor := cursor } := by
  induction tries generalizing m with
  | zero => exact ⟨m.cursor, rfl⟩
  | succ tries ih =>
    obtain ⟨cursor, hnext⟩ := next_fst m
    unfold chooseNext
    split
    · rename_i after heq
      have hafter : after = { m with cursor := cursor } := by rw [← hnext, heq]
      exact ⟨cursor, hafter⟩
    · rename_i after slot id heq
      have hafter : after = { m with cursor := cursor } := by rw [← hnext, heq]
      split
      · obtain ⟨cursor', hrest⟩ := ih after
        exact ⟨cursor', by rw [hrest, hafter]⟩
      · exact ⟨cursor, hafter⟩

theorem planNext_fst (c : Changer) : ∃ cursor, c.planNext.1 = c.turn cursor := by
  unfold planNext
  split
  · exact ⟨_, (turn_self c).symm⟩
  · obtain ⟨cursor, h⟩ := chooseNext_fst c.mounted c.magazine.size c.magazine
    refine ⟨cursor, ?_⟩
    simp only [turn, ← h]
    split <;> rfl

theorem planned_of_planNext (h : c.planNext.2 = .ok p) : Planned c.planNext.1 p := by
  unfold planNext at h ⊢
  split at h
  · cases h
  · dsimp only at h ⊢
    split at h
    · cases h
    · exact planned_of_planMount h

/-- Planning leaves the changer as it is, up to the round. -/
theorem plan_fst (c : Changer) (command : Command) :
    ∃ cursor, (c.plan command).1 = c.turn cursor := by
  cases command with
  | next => exact planNext_fst c
  | _ => exact ⟨_, (turn_self c).symm⟩

/-- A plan fits the changer that it was made for. -/
theorem planned_of_plan {command : Command} (h : c.plan command = (c', .ok (some p))) :
    Planned c' p := by
  have map_ok {r : Except Error Plan} (hr : r.map some = .ok (some p)) : r = .ok p := by
    cases r with
    | ok q => cases hr; rfl
    | error e => cases hr
  cases command <;> simp only [plan, Prod.mk.injEq] at h <;> obtain ⟨rfl, h⟩ := h
  case load => exact planned_of_planLoad (map_ok h)
  case unload => exact planned_of_planUnload (map_ok h)
  case scan => exact planned_of_planScan (map_ok h)
  case mount => exact planned_of_planMount (map_ok h)
  case unmount => exact planned_of_planUnmount (map_ok h)
  case next => exact planned_of_planNext (map_ok h)
  case runProgram => exact planned_of_planRun (map_ok h)
  all_goals cases h

/-! ### Starting -/

/-- The changer after the announcement of a plan. -/
def started (c : Changer) (p : Plan) : Changer :=
  { c.arrive p.event (p.goal c.state) p.tag p.sample with pending := some p.program }

theorem started_mountTarget (h : p.goal c.state = .mounting) :
    (c.started p).machine.mountTarget = p.sample := by
  show (if p.goal c.state = .mounting then p.sample else _) = p.sample
  rw [if_pos h]

theorem started_nextSample (h : p.goal c.state = .unmountingSwitch) :
    (c.started p).machine.nextSample = p.sample := by
  show (if p.goal c.state = .unmountingSwitch then p.sample else _) = p.sample
  rw [if_pos h]

/-- An allowed event announces its plan. -/
theorem begin_of_target (ht : p.event.target? c.state = some (p.goal c.state))
    (hto : p.goal c.state ≠ .homeSwitch) (hs : c.state ≠ .homeSwitch) :
    c.begin p = (c.started p, .ok (c.state, p.goal c.state)) := by
  simp only [begin, fire_of_target ht hto hs]
  rfl

theorem execute_of_target (ht : p.event.target? c.state = some (p.goal c.state))
    (hto : p.goal c.state ≠ .homeSwitch) (hs : c.state ≠ .homeSwitch) :
    c.execute p = .ask (c.started p) (.run p.program.fileName p.tag) fun now answer =>
      match answer with
      | .ok _ => (now, .ok (p.goal c.state))
      | .error reason => (now.abort c.state, .error (.driver reason)) := by
  have hbegin := begin_of_target ht hto hs
  unfold execute
  split
  · rename_i heq
    rw [hbegin] at heq
    cases heq
  · rename_i heq
    rw [hbegin] at heq
    cases heq
    rfl

/-- The announcement of a plan is never refused. -/
theorem execute_of_planned (h : Planned c p) :
    c.execute p = .ask (c.started p) (.run p.program.fileName p.tag) fun now answer =>
      match answer with
      | .ok _ => (now, .ok (p.goal c.state))
      | .error reason => (now.abort c.state, .error (.driver reason)) := by
  have hs : c.state ≠ .homeSwitch := by
    rcases h.state_cases with hs | hs <;> rw [hs] <;> decide
  exact execute_of_target h.target.1 h.target.2 hs

/-! ### Carrying out -/

/-- What a command can come to when the robot answers at once. -/
inductive Upshot (c : Changer) (command : Command) (answer : Order → Answer) :
    Carried (Except Error Unit) → Prop
  /-- Nothing but the round moves, and no program is asked for. -/
  | quiet (cursor : Nat) {orders : List Order} {result : Except Error Unit}
      (idle : ∀ name tag, Order.run name tag ∉ orders) :
      Upshot c command answer ⟨c.turn cursor, orders, result⟩
  /-- The changer is reset; at most the program that brings the arm home is asked for. -/
  | reset {orders : List Order} {result : Except Error Unit}
      (home : ∀ name tag, Order.run name tag ∈ orders → tag = "reset") :
      Upshot c command answer ⟨c.reset.1, orders, result⟩
  /-- The plan of the command is started. -/
  | started {cursor : Nat} {p : Plan} (plan : c.plan command = (c.turn cursor, .ok (some p)))
      (planned : Planned (c.turn cursor) p)
      (accepted : answer (.run p.program.fileName p.tag) = .ok ()) :
      Upshot c command answer
        ⟨(c.turn cursor).started p, [.run p.program.fileName p.tag], .ok ()⟩
  /-- The plan of the command is announced, refused, and taken back. -/
  | refused {cursor : Nat} {p : Plan} {reason : String}
      (plan : c.plan command = (c.turn cursor, .ok (some p)))
      (planned : Planned (c.turn cursor) p)
      (answered : answer (.run p.program.fileName p.tag) = .error reason) :
      Upshot c command answer
        ⟨((c.turn cursor).started p).abort c.state, [.run p.program.fileName p.tag],
          .error (.driver reason)⟩

/-- All commands but these four do what is planned, or fail as the plan does. -/
theorem command_eq_plan {command : Command} (h : command ∉ [.stop, .pause, .play, .reset]) :
    c.command command = match c.plan command with
      | (c', .error e) => .done c' (.error e)
      | (c', .ok none) => .done c' (.ok ())
      | (c', .ok (some p)) => (c'.execute p).map fun r => r.map fun _ => () := by
  cases command
  case stop => simp at h
  case pause => simp at h
  case play => simp at h
  case reset => simp at h
  all_goals rfl

/-- The four have no plan. -/
theorem plan_of_order {command : Command} (h : command ∈ [.stop, .pause, .play, .reset]) :
    c.plan command = (c, .ok none) := by
  simp only [List.mem_cons, List.not_mem_nil, or_false] at h
  rcases h with rfl | rfl | rfl | rfl <;> rfl

theorem command_of_plan {command : Command} (hplan : c.plan command = (c', .ok (some p))) :
    c.command command = (c'.execute p).map fun r => r.map fun _ => () := by
  rw [command_eq_plan, hplan]
  intro horder
  rw [plan_of_order horder] at hplan
  cases hplan

theorem command_of_plan_error {command : Command} {e : Error}
    (hplan : c.plan command = (c', .error e)) : c.command command = .done c' (.error e) := by
  rw [command_eq_plan, hplan]
  intro horder
  rw [plan_of_order horder] at hplan
  cases hplan

theorem upshot_of_plan {command : Command} {answer : Order → Answer}
    (h : command ∉ [.stop, .pause, .play, .reset]) :
    Upshot c command answer ((c.command command).carryOut answer) := by
  obtain ⟨cursor, hcursor⟩ := plan_fst c command
  rw [command_eq_plan h]
  cases hplan : c.plan command with
  | mk c' planned =>
    have hc' : c' = c.turn cursor := by rw [← hcursor, hplan]
    subst hc'
    match planned with
    | .error e => exact .quiet cursor (by simp)
    | .ok none => exact .quiet cursor (by simp)
    | .ok (some p) =>
      have hp := planned_of_plan hplan
      dsimp only
      rw [execute_of_planned hp]
      cases hanswer : answer (.run p.program.fileName p.tag) with
      | ok u =>
        simp only [Action.map, Action.carryOut, hanswer, Except.map]
        exact .started hplan hp hanswer
      | error reason =>
        simp only [Action.map, Action.carryOut, hanswer, Except.map]
        exact .refused hplan hp hanswer

/-- Every command comes to one of the four. -/
theorem command_upshot (c : Changer) (command : Command) (answer : Order → Answer) :
    Upshot c command answer ((c.command command).carryOut answer) := by
  cases command with
  | stop =>
    simp only [Changer.command, order, Action.carryOut]
    cases answer .stop with
    | ok u => exact .reset (by simp)
    | error reason => exact .quiet c.magazine.cursor (by simp)
  | pause =>
    simp only [Changer.command, order, Action.carryOut]
    cases answer .pause <;> exact .quiet c.magazine.cursor (by simp)
  | play =>
    simp only [Changer.command, order, Action.carryOut]
    cases answer .play <;> exact .quiet c.magazine.cursor (by simp)
  | reset =>
    simp only [Changer.command, order, Action.carryOut]
    cases answer (.run Program.reset.fileName "reset") <;> exact .reset (by simp)
  | _ => exact upshot_of_plan (by simp)

/-- While a sample is being mounted, a command resets the changer or leaves the mount alone. -/
theorem command_of_mounting (hs : c.state = .mounting) (command : Command)
    (answer : Order → Answer)
    (hstays : ((c.command command).carryOut answer).changer.state = .mounting) :
    ∃ cursor, ((c.command command).carryOut answer).changer = c.turn cursor := by
  have hupshot := command_upshot c command answer
  generalize (c.command command).carryOut answer = carried at hupshot hstays
  cases hupshot with
  | quiet cursor _ => exact ⟨cursor, rfl⟩
  | reset _ =>
    have hrest : c.reset.1.state = restState c.state := rfl
    rw [show c.reset.1.state = .mounting from hstays, hs] at hrest
    cases hrest
  | started _ planned _ =>
    have hr : c.state.atRest = true := planned.atRest
    rw [hs] at hr
    cases hr
  | refused _ planned _ =>
    have hr : c.state.atRest = true := planned.atRest
    rw [hs] at hr
    cases hr

/-- While a program runs, a command resets the changer or moves the round at most. -/
theorem command_of_busy (hr : c.state.atRest = false) (command : Command)
    (hstop : command ≠ .stop) (hreset : command ≠ .reset) (answer : Order → Answer) :
    ∃ cursor, ((c.command command).carryOut answer).changer = c.turn cursor := by
  obtain ⟨cursor, hcursor⟩ := plan_fst c command
  have hnone (c' : Changer) (p : Plan) : c.plan command ≠ (c', .ok (some p)) := by
    intro hplan
    rw [hplan] at hcursor
    have hrest := (planned_of_plan hplan).atRest
    rw [show c' = c.turn cursor from hcursor] at hrest
    exact Bool.noConfusion (hr.symm.trans hrest)
  cases command with
  | stop => exact absurd rfl hstop
  | reset => exact absurd rfl hreset
  | pause =>
    simp only [Changer.command, order, Action.carryOut]
    cases answer .pause <;> exact ⟨c.magazine.cursor, rfl⟩
  | play =>
    simp only [Changer.command, order, Action.carryOut]
    cases answer .play <;> exact ⟨c.magazine.cursor, rfl⟩
  | _ =>
    refine ⟨cursor, ?_⟩
    simp only [Changer.command]
    split
    · rename_i hplan
      rw [hplan] at hcursor
      exact hcursor
    · rename_i hplan
      rw [hplan] at hcursor
      exact hcursor
    · rename_i hplan
      exact absurd hplan (hnone _ _)

end Changer

end Autosampler

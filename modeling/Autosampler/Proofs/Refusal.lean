import Autosampler.Proofs.Course
import Autosampler.Proofs.Recovery
import Autosampler.Proofs.Round

/-!
# Refused programs

The changer remembers one state from before the announcement of a program.  When the robot refuses,
everything else is made as it should be at rest: no pending program, and no sample that is next or
being mounted.  At rest it has always been so, however the changer got there, even if an
earlier refusal came so late that state and measurement position do not fit together any more.

* `Possible` — what can become of a changer when messages come in at any time;
* `Geared`, `Possible.geared` — machine and pending program fit together, whatever is mounted;
* `Unmoved` — nothing that the next command looks at is different;
* `refusal_leaves_no_trace` — an accepted program, a refused one, and a plan that fails.
-/

namespace Autosampler

/-! ### Whatever comes in between -/

/-- What can become of an empty changer.  Messages come in at any time: between a plan and its
announcement, before the robot answers, and while a sample is on its way from the queue. -/
inductive Possible : Changer → Prop
  | empty (n : Nat) : Possible (Changer.ofSize n)
  | message {c : Changer} (before : Possible c) (message : Message) (label : Option String) :
      Possible (c.hear message label)
  | command {c : Changer} (before : Possible c) (command : Command)
      (talk : List (Message × Option String)) (answer : Order → Answer) :
      Possible ((c.command command).carryOutAmid talk answer).changer
  | planned {c c' : Changer} {command : Command} {p : Plan} (before : Possible c)
      (plan : c.plan command = (c', .ok (some p))) (talk talk' : List (Message × Option String))
      (answer : Order → Answer) :
      Possible (((c'.listen talk).execute p).carryOutAmid talk' answer).changer
  | deliver {c taken : Changer} {id : String} (before : Possible c)
      (waits : c.takeChained = some (id, taken)) (talk talk' : List (Message × Option String))
      (answer : Order → Answer) :
      Possible (((taken.listen talk).resume id).carryOutAmid talk' answer).changer

theorem Action.carryOutAmid_nil {α : Type} (action : Action α) (answer : Order → Answer) :
    action.carryOutAmid [] answer = action.carryOut answer := by
  cases action <;> rfl

theorem Action.carryOutAmid_map {α β : Type} (action : Action α) (f : α → β)
    (talk : List (Message × Option String)) (answer : Order → Answer) :
    ((action.map f).carryOutAmid talk answer).changer
      = (action.carryOutAmid talk answer).changer := by
  cases action <;> rfl

namespace Possible

variable {c : Changer}

theorem step (h : Possible c) (move : Move) : Possible (c.step move) := by
  cases move with
  | command command answer =>
    show Possible ((c.command command).carryOut answer).changer
    rw [← Action.carryOutAmid_nil]
    exact h.command command [] answer
  | message message label => exact h.message message label
  | deliver answer =>
    cases htake : c.takeChained with
    | none =>
      have hstep : c.step (.deliver answer) = c := by simp only [Changer.step, htake]
      rw [hstep]
      exact h
    | some waiting =>
      have hstep : c.step (.deliver answer)
          = ((waiting.2.resume waiting.1).carryOutAmid [] answer).changer := by
        simp only [Changer.step, htake, Action.carryOutAmid_nil]
      rw [hstep]
      exact h.deliver htake [] [] answer

/-- What is reached with refusals in time is among these. -/
theorem of_reached (h : Reached c) : Possible c := by
  induction h with
  | empty n => exact .empty n
  | step _ move ih => exact ih.step move
  | refused _ hplan hexecute messages reason _ ih =>
    have hlate := ih.planned hplan [] messages fun _ => .error reason
    rw [Changer.listen, hexecute] at hlate
    exact hlate

end Possible

/-! ### Machine and pending program -/

/-- The changer with another sample at the measurement position, or with none. -/
def Changer.holding (c : Changer) (sample : Option String) : Changer :=
  { c with mounted := sample }

/-- With the right sample at the measurement position, the stores would fit together. -/
def Geared (c : Changer) : Prop := ∃ sample, Consistent (c.holding sample)

namespace Geared

variable {c d : Changer} {p : Plan}

theorem tag (h : Geared c) : c.state.Wears c.machine.tag := by
  obtain ⟨sample, h⟩ := h
  exact h.tag

theorem settled (h : Geared c) : c.state ≠ .homeSwitch := by
  obtain ⟨sample, h⟩ := h
  exact h.settled

/-- At rest, nothing is under way. -/
theorem idle (h : Geared c) (hr : c.state.atRest = true) :
    c.pending = none ∧ c.machine.nextSample = none ∧ c.machine.mountTarget = none := by
  obtain ⟨sample, h⟩ := h
  refine ⟨h.pending_of_rest hr, Option.not_isSome_iff_eq_none.mp fun hsome => ?_,
    Option.not_isSome_iff_eq_none.mp fun hsome => ?_⟩
  · have hs : c.state = .unmountingSwitch := h.next.mp hsome
    rw [hs] at hr
    cases hr
  · have hs : c.state = .mounting := h.target.mp hsome
    rw [hs] at hr
    cases hr

theorem ofSize (n : Nat) : Geared (Changer.ofSize n) := ⟨none, Consistent.ofSize n⟩

theorem turn (h : Geared c) (cursor : Nat) : Geared (c.turn cursor) := by
  obtain ⟨sample, h⟩ := h
  exact ⟨sample, h.turn cursor⟩

/-- A forced rest state, whatever was before. -/
theorem abort {rest : State} (hr : rest.atRest = true) : Geared (c.abort rest) := by
  refine ⟨if rest = .homeMounted then some "" else none,
    Consistent.of_restore (c := c) rest rfl hr ?_ rfl⟩
  show (if rest = .homeMounted then some "" else none).isSome ↔ rest = .homeMounted
  split <;> simp_all

theorem reset : Geared c.reset.1 := abort (Changer.restState_atRest c.state)

/-! #### Messages -/

theorem hear (h : Geared c) (message : Message) (label : Option String) :
    Geared (c.hear message label) := by
  obtain ⟨sample, h⟩ := h
  -- neither the machine nor the pending program depends on what is mounted
  have hmachine :
      (c.hear message label).machine = ((c.holding sample).hear message label).machine :=
    (c.hear_follows message label).machine.trans
      ((c.holding sample).hear_follows message label).machine.symm
  have hpending :
      (c.hear message label).pending = ((c.holding sample).hear message label).pending :=
    (Changer.hear_pending_eq (c := c) h.tag h.settled message label).trans
      (Changer.hear_pending_eq h.tag h.settled message label).symm
  exact ⟨((c.holding sample).hear message label).mounted,
    (h.hear message label).of_same hmachine rfl (Or.inl hpending)⟩

theorem listen (h : Geared c) (talk : List (Message × Option String)) :
    Geared (c.listen talk) := by
  induction talk generalizing c with
  | nil => exact h
  | cons said talk ih => exact ih (h.hear said.1 said.2)

/-- At rest, no message moves the machine. -/
theorem listen_machine (h : Geared c) (hr : c.state.atRest = true)
    (talk : List (Message × Option String)) : (c.listen talk).machine = c.machine := by
  induction talk generalizing c with
  | nil => rfl
  | cons said talk ih =>
    have hsame : (c.hear said.1 said.2).machine = c.machine := by
      by_cases hok : said.1 = .ok
      · rw [hok, Changer.hear_ok_of_rest h.tag hr]
      · have hscan : c.state.scanning = false := by
          rcases State.eq_of_atRest hr with hs | hs <;> rw [hs] <;> rfl
        obtain ⟨magazine, pending, heq⟩ := Changer.hear_of_not_scanning hscan hok said.2
        rw [heq]
    have hrest := ih (h.hear said.1 said.2) (by rw [Changer.state, hsame]; exact hr)
    exact hrest.trans hsame

/-- At rest, acknowledgements mean nothing. -/
theorem listen_acknowledgements (h : Geared c) (hr : c.state.atRest = true)
    {talk : List (Message × Option String)} (ht : ∀ said ∈ talk, said.1.isRemark = false) :
    c.listen talk = c := by
  induction talk with
  | nil => rfl
  | cons said talk ih =>
    have hsame : c.hear said.1 said.2 = c := by
      have hsaid := ht said List.mem_cons_self
      obtain ⟨message, label⟩ := said
      cases message with
      | ok => exact Changer.hear_ok_of_rest h.tag hr
      | error text =>
        rcases Changer.hear_error_eq (c := c) text label with heq | heq <;> rw [heq]
        rw [Changer.dropPending, ← (h.idle hr).1]
      | slot number present => cases hsaid
      | qr number => cases hsaid
      | get key => cases hsaid
    rw [Changer.listen, hsame]
    exact ih fun later hlater => ht later (List.mem_cons_of_mem said hlater)

/-! #### Plans and deliveries -/

/-- The announcement of a plan that was made in the same state is never refused. -/
theorem execute_eq (h : Geared c) (hp : Planned d p) (hd : d.state = c.state) :
    c.execute p = .ask (c.started p) (.run p.program.fileName p.tag) fun now answer =>
      match answer with
      | .ok _ => (now, .ok (p.goal c.state))
      | .error reason => (now.abort c.state, .error (.driver reason)) := by
  obtain ⟨ht, hto⟩ := hp.target
  rw [hd] at ht hto
  exact Changer.execute_of_target ht hto h.settled

theorem executed (h : Geared c) (hp : Planned d p) (hd : d.state = c.state)
    (talk : List (Message × Option String)) (answer : Order → Answer) :
    Geared ((c.execute p).carryOutAmid talk answer).changer := by
  have hbegun : Geared (c.started p) := by
    obtain ⟨sample, h⟩ := h
    exact ⟨sample, h.announced hp hd⟩
  rw [h.execute_eq hp hd]
  simp only [Action.carryOutAmid]
  cases answer (.run p.program.fileName p.tag) with
  | ok u => exact hbegun.listen talk
  | error reason => exact abort (by rw [← hd]; exact hp.atRest)

/-- Messages that come between a plan and its announcement do not matter. -/
theorem planned {c' : Changer} {command : Command} (h : Geared c)
    (hplan : c.plan command = (c', .ok (some p))) (talk talk' : List (Message × Option String))
    (answer : Order → Answer) :
    Geared (((c'.listen talk).execute p).carryOutAmid talk' answer).changer := by
  obtain ⟨cursor, rfl⟩ := turn_of_plan hplan
  have hp := Changer.planned_of_plan hplan
  have hgeared := h.turn cursor
  refine (hgeared.listen talk).executed hp ?_ talk' answer
  rw [Changer.state, Changer.state, hgeared.listen_machine hp.atRest talk]

theorem command (h : Geared c) (command : Command) (talk : List (Message × Option String))
    (answer : Order → Answer) :
    Geared ((c.command command).carryOutAmid talk answer).changer := by
  by_cases horder : command ∈ [.stop, .pause, .play, .reset]
  · simp only [List.mem_cons, List.not_mem_nil, or_false] at horder
    rcases horder with rfl | rfl | rfl | rfl <;>
      simp only [Changer.command, Changer.order, Action.carryOutAmid]
    · cases answer .stop with
      | ok u => exact reset
      | error reason => exact h.listen talk
    · cases answer .pause <;> exact h.listen talk
    · cases answer .play <;> exact h.listen talk
    · cases answer (.run Program.reset.fileName "reset") <;> exact reset.listen talk
  · obtain ⟨cursor, hcursor⟩ := Changer.plan_fst c command
    rw [Changer.command_eq_plan horder]
    cases hplan : c.plan command with
    | mk c' planned =>
      obtain rfl : c' = c.turn cursor := by rw [← hcursor, hplan]
      cases planned with
      | error e => exact h.turn cursor
      | ok planned =>
        cases planned with
        | none => exact h.turn cursor
        | some p =>
          show Geared ((((c.turn cursor).execute p).map _).carryOutAmid talk answer).changer
          rw [Action.carryOutAmid_map]
          exact h.planned hplan [] talk answer

/-- A waiting sample is put aside, given up, or fetched. -/
theorem resumed (h : Geared c) (id : String) (talk : List (Message × Option String))
    (answer : Order → Answer) : Geared ((c.resume id).carryOutAmid talk answer).changer := by
  by_cases hs : c.state = .mounting
  · cases hslot : c.magazine.slotOf? id with
    | none =>
      rw [Changer.resume_missing hs hslot]
      exact abort rfl
    | some slot =>
      have hbegun : Geared { c with pending := some (.mount slot) } := by
        obtain ⟨sample, h⟩ := h
        refine ⟨sample, { h with pending := ?_ }⟩
        intro program hp
        cases hp
        show c.state.Runs _
        rw [hs]
        trivial
      rw [Changer.resume_stored hs hslot]
      simp only [Action.carryOutAmid]
      cases answer (.run (Program.mount slot).fileName "mount") with
      | ok u => exact hbegun.listen talk
      | error reason => exact abort rfl
  · rw [Changer.resume_elsewhere hs]
    exact h

theorem taken {taken : Changer} {id : String} (h : Geared c)
    (hwaits : c.takeChained = some (id, taken)) : Geared taken := by
  obtain ⟨sample, h⟩ := h
  unfold Changer.takeChained at hwaits
  split at hwaits
  · cases hwaits
  · cases hwaits
    exact ⟨sample, h.of_same rfl rfl (Or.inl rfl)⟩

end Geared

theorem Possible.geared {c : Changer} (h : Possible c) : Geared c := by
  induction h with
  | empty n => exact Geared.ofSize n
  | message _ message label ih => exact ih.hear message label
  | command _ command talk answer ih => exact ih.command command talk answer
  | planned _ hplan talk talk' answer ih => exact ih.planned hplan talk talk' answer
  | deliver _ hwaits talk talk' answer ih =>
    exact ((ih.taken hwaits).listen talk).resumed _ talk' answer

/-! ### No trace -/

/-- From `c` to `d`, nothing that the next command looks at is different, and no sample has been
left waiting. -/
structure Unmoved (c d : Changer) : Prop where
  state : d.state = c.state
  slots : d.magazine.slots = c.magazine.slots
  mounted : d.mounted = c.mounted
  pending : d.pending = c.pending
  next : d.machine.nextSample = c.machine.nextSample
  target : d.machine.mountTarget = c.machine.mountTarget
  chained : d.chained = c.chained

theorem Unmoved.turn (c : Changer) (cursor : Nat) : Unmoved c (c.turn cursor) :=
  ⟨rfl, rfl, rfl, rfl, rfl, rfl, rfl⟩

/-- What the announcement of a program set is empty at rest anyway. -/
theorem Geared.unmoved {c : Changer} (h : Geared c) (hr : c.state.atRest = true) (cursor : Nat)
    (p : Plan) : Unmoved c (((c.turn cursor).started p).abort c.state) := by
  obtain ⟨hpending, hnext, htarget⟩ := h.idle hr
  exact ⟨rfl, rfl, rfl, hpending.symm, hnext.symm, htarget.symm, rfl⟩

/-- **A refused program leaves no trace.**  The changer is at rest, however it got there.  If a
command has a plan, carrying it out is no more than its execution: the event of the plan is allowed,
and the robot is asked for the program of the plan under its tag, and for nothing else.  If the
robot accepts, the changer is in the state that the event leads to.  If it refuses, the command
fails with its reason, all is as before, and acknowledgements that come later mean nothing.  A plan
that fails asks nothing of the robot, and all is as before. -/
theorem refusal_leaves_no_trace {c : Changer} (h : Possible c) (hr : c.state.atRest = true)
    (command : Command) :
    (∀ c' p, c.plan command = (c', .ok (some p)) →
      c.command command = ((c'.execute p).map fun result => result.map fun _ => ()) ∧
        ∃ goal, p.event.target? c.state = some goal ∧ ∀ answer,
          let asked := Order.run p.program.fileName p.tag
          let carried := (c'.execute p).carryOut answer
          carried.orders = [asked] ∧
            match answer asked with
            | .ok _ => carried.result = .ok goal ∧ carried.changer.state = goal
            | .error reason =>
              carried.result = .error (.driver reason) ∧ Unmoved c carried.changer ∧
                ∀ talk : List (Message × Option String),
                  (∀ said ∈ talk, said.1.isRemark = false) →
                    carried.changer.listen talk = carried.changer) ∧
      ∀ c' e, c.plan command = (c', .error e) →
        c.command command = .done c' (.error e) ∧ Unmoved c c' := by
  have hgeared := h.geared
  refine ⟨fun c' p hplan => ⟨Changer.command_of_plan hplan, ?_⟩, fun c' e hplan => ?_⟩
  · obtain ⟨cursor, rfl⟩ := turn_of_plan hplan
    have hp := Changer.planned_of_plan hplan
    refine ⟨p.goal c.state, hp.target.1, fun answer => ?_⟩
    intro asked carried
    have hcarried : carried = ((c.turn cursor).execute p).carryOut answer := rfl
    rw [Changer.execute_of_planned hp] at hcarried
    simp only [Action.carryOut] at hcarried
    rw [hcarried]
    refine ⟨rfl, ?_⟩
    cases answer asked with
    | ok u => exact ⟨rfl, rfl⟩
    | error reason =>
      refine ⟨rfl, hgeared.unmoved hr cursor p, fun talk ht => ?_⟩
      exact (Geared.abort hr).listen_acknowledgements hr ht
  · obtain ⟨cursor, hcursor⟩ := Changer.plan_fst c command
    rw [hplan] at hcursor
    obtain rfl : c' = c.turn cursor := hcursor
    exact ⟨Changer.command_of_plan_error hplan, Unmoved.turn c cursor⟩

/-- The mount of the only sample was acknowledged before the robot refused it. -/
def overtakenMount : Changer :=
  ((oneLoaded.command (.mount "@0")).carryOutAmid [(.ok, none)] unwilling).changer

theorem refusal_leaves_no_trace_overtaken :
    Possible overtakenMount ∧ overtakenMount.state = .home ∧ overtakenMount.mounted = some "@0" ∧
      overtakenMount.plan (.mount "@0") = (overtakenMount, .ok (some mountOfFirst)) ∧
      ((overtakenMount.execute mountOfFirst).carryOut willing).changer.state = .mounting ∧
      Unmoved overtakenMount
        ((overtakenMount.execute mountOfFirst).carryOut unwilling).changer := by
  have hpossible : Possible overtakenMount :=
    (Possible.of_reached reached_oneLoaded).command _ _ _
  have hs : overtakenMount.state = .home := by decide +kernel
  have hm : overtakenMount.mounted = some "@0" := by decide +kernel
  have hstored : overtakenMount.magazine.slotOf? "@0" = some 0 := by decide +kernel
  have hplan : overtakenMount.plan (.mount "@0") = (overtakenMount, .ok (some mountOfFirst)) := by
    rw [Changer.plan, Changer.planMount_of_home hs hstored]
    rfl
  obtain ⟨hstarts, -⟩ := refusal_leaves_no_trace hpossible (by rw [hs]; rfl) (.mount "@0")
  obtain ⟨-, goal, hgoal, hcarried⟩ := hstarts _ _ hplan
  rw [hs] at hgoal
  cases hgoal
  exact ⟨hpossible, hs, hm, hplan, (hcarried willing).2.2, (hcarried unwilling).2.2.1⟩

end Autosampler

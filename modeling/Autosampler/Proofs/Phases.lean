import Autosampler.Proofs.Course
import Autosampler.Proofs.Scan
import Mathlib.Data.List.Basic

/-!
# The phases of a scan

A scan goes through three phases.  Each one is left by one message only: the look at the last slot
ends the looks, the report on the last slot ends the reports, and the acknowledgement ends the way
home.  The same message means nothing in another phase, so a scan is over exactly if the three
messages were heard in this order.

* `ScanPhase`, `ScanPhase.next` — the phases, and the messages that end them;
* `ScanPhase.Finishes`, `ScanPhase.finishes_cons` — messages that bring a scan to its end;
* `Machine.fire_cases`, `Machine.hear_phase` — the machine is in the state of the phase;
* `Move.isReset`, `Changer.step_phase` — so is the changer, until a stop or a reset;
* `State.atSlot`, `Changer.step_atSlot` — no step ends in front of a slot;
* `scan_over_iff` — when a scan is over.
-/

namespace Autosampler

/-! ### Phases -/

/-- How far a scan has come. -/
inductive ScanPhase where
  /-- The camera goes along the slots. -/
  | looking
  /-- The slots are reported on. -/
  | reporting
  /-- The arm is on its way home. -/
  | returning
  /-- The arm is home again. -/
  | ended
deriving DecidableEq

namespace ScanPhase

variable {size : Nat} {phase : ScanPhase} {side : Bool}

/-- The state of a phase, without a mounted sample. -/
def state : ScanPhase → State
  | looking => .movingToScanPos
  | reporting => .presenceDetection
  | returning => .movingToHomePos
  | ended => .home

/-- The phase after a message, with `size` slots. -/
def next (size : Nat) : ScanPhase → Message → ScanPhase
  | looking, .qr slot => if slot = size then reporting else looking
  | reporting, .slot slot _ => if slot = size then returning else reporting
  | returning, .ok => ended
  | phase, _ => phase

/-- The messages that end this phase and the later ones are among `messages`, in this order. -/
def Finishes (size : Nat) : ScanPhase → List Message → Prop
  | looking, messages => ∃ present, [.qr size, .slot size present, .ok].Sublist messages
  | reporting, messages => ∃ present, [.slot size present, .ok].Sublist messages
  | returning, messages => [.ok].Sublist messages
  | ended, _ => True

theorem finishes_nil_iff : phase.Finishes size [] ↔ phase = ended := by
  cases phase <;> simp [Finishes]

/-- A message ends the phase, or it does not count. -/
theorem finishes_cons (message : Message) (messages : List Message) :
    phase.Finishes size (message :: messages) ↔
      (phase.next size message).Finishes size messages := by
  cases phase with
  | looking =>
    by_cases hends : message = .qr size
    · subst hends
      simp only [next, if_true, Finishes, List.cons_sublist_cons]
    · have hnext : looking.next size message = looking := by
        cases message <;> simp_all [next]
      simp only [hnext, Finishes, List.cons_sublist_cons', Ne.symm hends, false_and, or_false]
  | reporting =>
    by_cases hends : ∃ present, message = .slot size present
    · obtain ⟨present, rfl⟩ := hends
      simp only [next, if_true, Finishes]
      constructor
      · rintro ⟨_, h⟩
        exact h.tail
      · intro h
        exact ⟨present, h.cons_cons _⟩
    · have hne (present : Bool) : Message.slot size present ≠ message := fun heq =>
        hends ⟨present, heq.symm⟩
      have hnext : reporting.next size message = reporting := by
        cases message <;> simp_all [next]
      simp only [hnext, Finishes, List.cons_sublist_cons', hne, false_and, or_false]
  | returning =>
    by_cases hends : message = .ok
    · subst hends
      simp [next, Finishes]
    · have hnext : returning.next size message = returning := by
        cases message <;> simp_all [next]
      simp only [hnext, Finishes, List.cons_sublist_cons', Ne.symm hends, false_and, or_false]
  | ended => cases message <;> rfl

theorem atRest_iff (phase : ScanPhase) (side : Bool) :
    (phase.state.onSide side).atRest = true ↔ phase = ended := by
  cases phase <;> cases side <;> decide

theorem onSide_state_ne_mounting : phase.state.onSide side ≠ .mounting := by
  cases phase <;> cases side <;> decide

end ScanPhase

/-! ### The machine in a phase -/

namespace Machine

variable {m : Machine} {event : Event} {args : FireArgs} {phase : ScanPhase} {side : Bool}

/-- A firing that does not complete a switch is refused, or it is a single transition. -/
theorem fire_cases (args : FireArgs) (h : event.target? m.state ≠ some .homeSwitch) :
    (event.target? m.state = none ∧ (m.fire event args).machine = m) ∨
      ∃ state, event.target? m.state = some state ∧
        (m.fire event args).machine = m.enter state (args.tag.getD event.id) args.sample := by
  cases htarget : event.target? m.state with
  | none => exact Or.inl ⟨rfl, by rw [fire_refused htarget]⟩
  | some state =>
    have hto : state ≠ .homeSwitch := by
      rintro rfl
      exact h htarget
    exact Or.inr ⟨state, rfl, by rw [fire_of_target htarget hto]⟩

theorem fire_state (h : event.target? m.state ≠ some .homeSwitch) :
    (m.fire event args).machine.state = (event.target? m.state).getD m.state := by
  rcases fire_cases args h with ⟨htarget, hsame⟩ | ⟨state, htarget, hmoved⟩
  · rw [hsame, htarget, Option.getD_none]
  · rw [hmoved, htarget, Option.getD_some, enter_state]

theorem advance_state {source : State} (hs : m.state = source)
    (h : event.target? source ≠ some .homeSwitch) :
    (m.advance event).machine.state = (event.target? source).getD source := by
  subst hs
  exact fire_state h

/-- A report belongs to the phase of the reports. -/
theorem hear_slot_phase (hs : m.state = phase.state.onSide side) (size slot : Nat)
    (present : Bool) :
    (m.hear size (.slot slot present)).1.state
      = (phase.next size (.slot slot present)).state.onSide side := by
  have hadvance (event : Event) (h : event.target? (phase.state.onSide side) ≠ some .homeSwitch) :=
    advance_state hs h
  by_cases hlast : slot = size
  · subst hlast
    simp only [hear, Nat.lt_irrefl, if_false, stepAfter, if_true]
    rw [hadvance .finishedPresenceDetection (by cases phase <;> cases side <;> decide)]
    cases phase <;> cases side <;> simp only [ScanPhase.next, if_true] <;> rfl
  · have hnext : phase.next size (.slot slot present) = phase := by
      cases phase <;> simp [ScanPhase.next, hlast]
    simp only [hnext, hear, stepAfter, if_neg hlast]
    split
    · exact hs
    · rw [hadvance .nextSlot (by cases phase <;> cases side <;> decide)]
      cases phase <;> cases side <;> rfl

/-- A look belongs to the phase of the looks. -/
theorem hear_code_phase (hs : m.state = phase.state.onSide side) (size slot : Nat) :
    (m.hear size (.qr slot)).1.state = (phase.next size (.qr slot)).state.onSide side := by
  by_cases hlooking : phase = .looking
  · subst hlooking
    have hmoving : m.state = .movingToScanPos ∨ m.state = .movingToScanPosMounted :=
      hs ▸ State.movingToScanPos_onSide side
    have hreached : (m.advance .atScanPos).machine.state = State.scanningSample.onSide side := by
      rw [advance_state hs (by cases side <;> decide)]
      cases side <;> rfl
    simp only [hear, if_pos hmoving, scanSlot, stepAfter, ScanPhase.next]
    by_cases hlast : slot = size
    · subst hlast
      rw [if_neg (Nat.lt_irrefl slot), if_pos rfl, if_pos rfl,
        advance_state hreached (by cases side <;> decide)]
      cases side <;> rfl
    · rw [if_neg hlast, if_neg hlast]
      split
      · exact hs
      · rw [advance_state hreached (by cases side <;> decide)]
        cases side <;> rfl
  · have hnext : phase.next size (.qr slot) = phase := by
      cases phase <;> simp_all [ScanPhase.next]
    have hnot : ¬(m.state = .movingToScanPos ∨ m.state = .movingToScanPosMounted) := by
      rw [hs]
      cases phase with
      | looking => exact absurd rfl hlooking
      | _ => cases side <;> decide
    simp only [hnext, hear, if_neg hnot, ite_self]
    exact hs

/-- **The machine goes along with the phases**, whatever message comes. -/
theorem hear_phase (hs : m.state = phase.state.onSide side) (size : Nat) (message : Message) :
    (m.hear size message).1.state = (phase.next size message).state.onSide side := by
  cases message with
  | slot slot present => exact hear_slot_phase hs size slot present
  | qr slot => exact hear_code_phase hs size slot
  | ok =>
    have hto : Event.programFinished.target? m.state ≠ some .homeSwitch := by
      rw [hs]
      cases phase <;> cases side <;> decide
    show (m.fire .programFinished {}).machine.state = _
    rw [fire_state hto, hs]
    cases phase <;> cases side <;> rfl
  | get key => cases phase <;> exact hs
  | error text => cases phase <;> exact hs

end Machine

/-! ### The changer in a phase -/

/-- A stop or a reset. -/
def Move.isReset : Move → Bool
  | .command .stop _ | .command .reset _ => true
  | _ => false

/-- The messages of the robot in a list of moves. -/
def heard (moves : List Move) : List Message :=
  moves.filterMap fun
    | .message message _ => some message
    | _ => none

namespace ScanPhase

/-- The phase after a move that is no stop or reset. -/
def after (size : Nat) (phase : ScanPhase) : Move → ScanPhase
  | .message message _ => phase.next size message
  | _ => phase

theorem finishes_heard_cons {size : Nat} {phase : ScanPhase} (move : Move) (moves : List Move) :
    phase.Finishes size (heard (move :: moves)) ↔
      (phase.after size move).Finishes size (heard moves) := by
  cases move with
  | message message label => exact finishes_cons message (heard moves)
  | command command answer => rfl
  | deliver answer => rfl

end ScanPhase

namespace Changer

variable {c : Changer} {phase : ScanPhase} {side : Bool} {answer : Order → Answer}

/-- A scan goes on, whatever the operators, the robot and the waiting mounts do, until it is over
or taken back by a stop or a reset. -/
theorem step_phase (hs : c.state = phase.state.onSide side) (hphase : phase ≠ .ended) {move : Move}
    (hmove : move.isReset = false) :
    (c.step move).state = (phase.after c.magazine.size move).state.onSide side := by
  cases move with
  | message message label =>
    show (c.hear message label).machine.state = _
    rw [(c.hear_follows message label).machine]
    exact Machine.hear_phase hs c.magazine.size message
  | command command answer =>
    have hbusy : c.state.atRest = false := by
      rw [hs, Bool.eq_false_iff, Ne, ScanPhase.atRest_iff]
      exact hphase
    obtain ⟨cursor, hturn⟩ := command_of_busy hbusy command
      (by rintro rfl; cases hmove) (by rintro rfl; cases hmove) answer
    show ((c.command command).carryOut answer).changer.state = _
    rw [hturn]
    exact hs
  | deliver answer =>
    have hnot : c.state ≠ .mounting := hs ▸ ScanPhase.onSide_state_ne_mounting
    have hupshot := c.delivered answer
    generalize c.step (.deliver answer) = after, c.calls (.deliver answer) = asked at hupshot
    cases hupshot with
    | nothing _ => exact hs
    | aside _ _ => exact hs
    | missing _ mounting _ => exact absurd mounting hnot
    | started _ mounting _ _ => exact absurd mounting hnot
    | refused _ mounting _ _ => exact absurd mounting hnot

/-- A scan in some phase is over on the way exactly if the messages that it still waits for come in
their order. -/
theorem rest_on_way_iff (h : Consistent c) (hs : c.state = phase.state.onSide side)
    (moves : List Move) (hmoves : ∀ move ∈ moves, move.isReset = false) :
    (∃ part, part <+: moves ∧ (c.run part).state.atRest = true) ↔
      phase.Finishes c.magazine.size (heard moves) := by
  induction moves generalizing c phase with
  | nil =>
    show _ ↔ phase.Finishes c.magazine.size []
    rw [ScanPhase.finishes_nil_iff, ← ScanPhase.atRest_iff phase side, ← hs]
    constructor
    · rintro ⟨part, hpart, hrest⟩
      obtain rfl := List.prefix_nil.mp hpart
      exact hrest
    · intro hrest
      exact ⟨[], List.nil_prefix, hrest⟩
  | cons move moves ih =>
    by_cases hphase : phase = .ended
    · subst hphase
      have hrest : c.state.atRest = true := hs ▸ (ScanPhase.atRest_iff _ _).mpr rfl
      exact ⟨fun _ => trivial, fun _ => ⟨[], List.nil_prefix, hrest⟩⟩
    have hnext := step_phase hs hphase (hmoves move List.mem_cons_self)
    have hrest := ih (h.step move) hnext fun later hlater =>
      hmoves later (List.mem_cons_of_mem move hlater)
    rw [step_size h move] at hrest
    rw [ScanPhase.finishes_heard_cons, ← hrest]
    constructor
    · rintro ⟨part, hpart, hend⟩
      cases part with
      | nil => exact absurd ((ScanPhase.atRest_iff _ _).mp (hs ▸ hend)) hphase
      | cons first part =>
        obtain ⟨rfl, hlater⟩ := List.cons_prefix_cons.mp hpart
        exact ⟨part, hlater, hend⟩
    · rintro ⟨part, hpart, hend⟩
      exact ⟨move :: part, List.cons_prefix_cons.mpr ⟨rfl, hpart⟩, hend⟩

end Changer

/-! ### In front of a slot -/

namespace State

/-- The camera is in front of a slot. -/
def atSlot : State → Bool
  | scanningSample | scanningSampleMounted => true
  | _ => false

theorem atSlot_of_atRest {state : State} (h : state.atRest = true) : state.atSlot = false := by
  cases state <;> cases h <;> rfl

end State

/-- Only one event leads to a slot. -/
theorem Event.atSlot_of_target {event : Event} {source target : State}
    (h : event.target? source = some target) (hevent : event ≠ .atScanPos) :
    target.atSlot = false := by
  have hall : ∀ move ∈ event.transitions, move.2.atSlot = false := by
    cases event with
    | atScanPos => exact absurd rfl hevent
    | _ => decide
  exact hall _ (mem_transitions h)

theorem ScanPhase.atSlot_state (phase : ScanPhase) (side : Bool) :
    (phase.state.onSide side).atSlot = false := by
  cases phase <;> cases side <;> rfl

namespace Machine

variable {m m' : Machine} {event : Event} {args : FireArgs} {t : Transition}
  {next : Option String}

theorem target_of_step? (h : m.step? event args = some (m', t, next)) :
    event.target? m.state = some m'.state := by
  obtain ⟨target, htarget, hmoved⟩ := Option.map_eq_some_iff.mp h
  cases target <;> cases hmoved <;> exact htarget

theorem fire_atSlot (hs : m.state.atSlot = false) (hevent : event ≠ .atScanPos) :
    (m.fire event args).machine.state.atSlot = false := by
  unfold fire
  split
  · exact hs
  · rename_i hstep
    exact Event.atSlot_of_target (target_of_step? hstep) hevent
  · rename_i hstep
    split
    · exact Event.atSlot_of_target (target_of_step? hstep) hevent
    · rename_i hmount
      exact Event.atSlot_of_target (target_of_step? hmount) (by decide)

/-- A message that finds the camera elsewhere leaves it elsewhere. -/
theorem hear_atSlot (hs : m.state.atSlot = false) (size : Nat) (message : Message) :
    (m.hear size message).1.state.atSlot = false := by
  cases message with
  | slot slot present =>
    have hevent : stepAfter size slot .finishedPresenceDetection ≠ .atScanPos := by
      unfold stepAfter
      split <;> decide
    simp only [hear]
    split
    · exact hs
    · exact fire_atSlot hs hevent
  | qr slot =>
    by_cases hmoving : m.state = .movingToScanPos ∨ m.state = .movingToScanPosMounted
    · have hlooking : m.state = ScanPhase.looking.state.onSide m.state.mounted := by
        rcases hmoving with h | h <;> rw [h] <;> rfl
      rw [hear_code_phase hlooking]
      exact ScanPhase.atSlot_state _ _
    · simp only [hear, if_neg hmoving, ite_self]
      exact hs
  | ok => exact fire_atSlot hs (by decide)
  | get key => exact hs
  | error text => exact hs

end Machine

namespace Changer

variable {c : Changer} {answer : Order → Answer}

/-- **No step ends in front of a slot.** -/
theorem step_atSlot (hs : c.state.atSlot = false) (move : Move) :
    (c.step move).state.atSlot = false := by
  cases move with
  | message message label =>
    show (c.hear message label).machine.state.atSlot = false
    rw [(c.hear_follows message label).machine]
    exact Machine.hear_atSlot hs c.magazine.size message
  | command command answer =>
    have hupshot := command_upshot c command answer
    show ((c.command command).carryOut answer).changer.state.atSlot = false
    generalize (c.command command).carryOut answer = carried at hupshot
    cases hupshot with
    | quiet cursor _ => exact hs
    | reset _ =>
      show (restState c.state).atSlot = false
      cases c.state <;> rfl
    | started _ planned _ =>
      refine Event.atSlot_of_target planned.target.1 ?_
      cases planned <;> exact Event.noConfusion
    | refused _ planned _ => exact State.atSlot_of_atRest planned.atRest
  | deliver answer =>
    have hupshot := c.delivered answer
    generalize c.step (.deliver answer) = after, c.calls (.deliver answer) = asked at hupshot
    cases hupshot with
    | nothing _ => exact hs
    | aside _ _ => exact hs
    | missing _ _ _ => rfl
    | started _ _ _ _ => exact hs
    | refused _ _ _ _ => rfl

/-- An accepted scan began at rest, and the robot agreed to it. -/
theorem rest_of_scan_accepted (h : ((c.command .scan).carryOut answer).result = .ok ()) :
    c.state.atRest = true ∧ answer (.run Program.scan.fileName Event.scanSamples.id) = .ok () := by
  by_cases hr : c.state.atRest = true
  · refine ⟨hr, ?_⟩
    have hexecute : c.command .scan = (c.execute .scan).map fun r => r.map fun _ => () := by
      simp only [Changer.command, plan_scan hr]
    unfold Plan.scan at hexecute
    rw [hexecute, execute_of_planned (Planned.scan hr)] at h
    cases hanswer : answer (.run Program.scan.fileName Event.scanSamples.id) with
    | ok u => rfl
    | error reason =>
      simp only [Action.map, Action.carryOut, hanswer] at h
      cases h
  · simp only [Changer.command, plan, planScan, requireRest, if_neg hr] at h
    cases h

end Changer

/-! ### The whole scan -/

/-- **A scan is over only in the end.**  After an accepted scan, and until a stop or a reset, the
changer has been at rest again exactly if a look at the last slot, later a report on the last slot,
and later an acknowledgement were heard.  No other messages, commands or deliveries end the scan,
in whatever number and order they come, and after none of them is the camera in front of a slot. -/
theorem scan_over_iff (n : Nat) (before moves : List Move) (answer : Order → Answer)
    (haccepted : ((((Changer.ofSize n).run before).command .scan).carryOut answer).result = .ok ())
    (hmoves : ∀ move ∈ moves, move.isReset = false) :
    let begun := ((Changer.ofSize n).run before).step (.command .scan answer)
    ((∃ part, part <+: moves ∧ (begun.run part).state.atRest = true) ↔
        ∃ present, [.qr n, .slot n present, .ok].Sublist (heard moves)) ∧
      Changer.Along (fun d => d.state.atSlot = false) begun moves := by
  intro begun
  obtain ⟨hrest, haccepts⟩ := Changer.rest_of_scan_accepted haccepted
  obtain ⟨hmoving, -⟩ := Sweeping.started hrest
  have hconsistent : Consistent begun := ((Consistent.ofSize n).run before).step _
  have hstate : begun.state = ScanPhase.looking.state.onSide _ :=
    (congrArg Changer.state (Changer.step_scan hrest haccepts)).trans hmoving
  have hsize : begun.magazine.size = n := by
    refine (Changer.step_size ((Consistent.ofSize n).run before) _).trans ?_
    exact (Changer.run_size (Consistent.ofSize n) before).trans List.length_replicate
  refine ⟨?_, ?_⟩
  · have hover := Changer.rest_on_way_iff hconsistent hstate moves hmoves
    rwa [hsize] at hover
  · refine Changer.along_of_step (fun _ move hs => Changer.step_atSlot hs move) ?_ moves
    rw [hstate]
    exact ScanPhase.atSlot_state _ _

/-- Messages and a command that leave a scan of two slots unfinished: an acknowledgement and a
report come too early, looks are repeated, a slot does not exist, and a sample is to be loaded. -/
def hasty : List Move :=
  [.message .ok none, .message (.slot 2 true) none, .message (.qr 2) (some "A"),
    .command .load willing, .message .ok none, .message (.qr 2) none, .message (.slot 1 true) none,
    .message (.slot 3 true) none, .message .ok none, .message (.slot 2 false) none,
    .message (.error none) none]

/-- They leave the scan unfinished, and one more acknowledgement ends it. -/
theorem scan_over_iff_hasty :
    let begun := (Changer.ofSize 2).step (.command .scan willing)
    let patient := hasty ++ [.message .ok none]
    (((Changer.ofSize 2).command .scan).carryOut willing).result = .ok () ∧
      (∀ move ∈ hasty, move.isReset = false) ∧
      (¬∃ part, part <+: hasty ∧ (begun.run part).state.atRest = true) ∧
      Changer.Along (fun d => d.state.atSlot = false) begun hasty ∧
      (∀ move ∈ patient, move.isReset = false) ∧
      ∃ part, part <+: patient ∧ (begun.run part).state.atRest = true := by
  intro begun patient
  have haccepted : (((Changer.ofSize 2).command .scan).carryOut willing).result = .ok () := rfl
  have hmoves : ∀ move ∈ hasty, move.isReset = false := by simp [hasty, Move.isReset]
  have hpatient : ∀ move ∈ patient, move.isReset = false := by
    simp [patient, hasty, Move.isReset]
  obtain ⟨hover, halong⟩ := scan_over_iff 2 [] hasty willing haccepted hmoves
  obtain ⟨hend, -⟩ := scan_over_iff 2 [] patient willing haccepted hpatient
  have hmissing : ¬∃ present, [.qr 2, .slot 2 present, .ok].Sublist (heard hasty) := by decide
  have hheard : ∃ present, [.qr 2, .slot 2 present, .ok].Sublist (heard patient) := by decide
  exact ⟨haccepted, hmoves, fun hrest => hmissing (hover.mp hrest), halong, hpatient,
    hend.mpr hheard⟩

end Autosampler

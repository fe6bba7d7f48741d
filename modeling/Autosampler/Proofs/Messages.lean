import Autosampler.Proofs.Hearing

/-!
# What messages do, by state

A message finds the changer at rest, on a run along the slots, or in another program, and it does
one thing in each of these.  The tag of the changer is taken to be the one of its state, so that an
acknowledgement finds the handlers of the running program.

* `State.scanning`, `State.workTag?`, `State.Wears` — the run along the slots, and the tag that
  belongs to a state;
* `Event.scans`, `Event.scanning_of_target`, `Event.rest_of_finished` — where steps of a scan and
  finished programs lead;
* `Changer.advance_cases`, `Changer.hear_of_ne_ok`, `Changer.hear_of_not_scanning` — messages
  other than good acknowledgements;
* `Changer.acknowledge` — the books of a good acknowledgement;
* `Changer.hear_pending_eq` — the pending program after any message;
* `Changer.hear_ok_of_rest`, `Changer.hear_ok_of_early`, `Changer.hear_ok_of_target`,
  `Changer.hear_ok_of_switch` — a good acknowledgement in closed form.
-/

namespace Autosampler

/-! ### States and tags -/

namespace State

/-- A run along the slots is going on. -/
def scanning : State → Bool
  | movingToScanPos | movingToScanPosMounted | scanningSample | scanningSampleMounted
  | presenceDetection | presenceDetectionMounted | movingToHomePos
  | movingToHomePosMounted => true
  | _ => false

/-- The tag of the program that runs in a state. -/
def workTag? : State → Option String
  | home | homeMounted | homeSwitch => none
  | loading | loadingMounted => some "load"
  | unloading | unloadingMounted => some "unload"
  | mounting => some "mount"
  | unmounting => some "unmount"
  | unmountingSwitch => some switchTag
  | runningProgram => some Event.runProgram.id
  | _ => some Event.scanSamples.id

/-- The recorded tag is that of the running program; without one it is absent, or it tells that
the last one was acknowledged. -/
def Wears (state : State) (tag : Option String) : Prop :=
  match state.workTag? with
  | some work => tag = some work
  | none => tag = none ∨ tag = some Event.programFinished.id

theorem workTag?_of_scanning {state : State} (h : state.scanning = true) :
    state.workTag? = some Event.scanSamples.id := by
  cases state <;> simp_all [scanning, workTag?]

theorem ne_homeSwitch_of_scanning {state : State} (h : state.scanning = true) :
    state ≠ .homeSwitch := by
  rintro rfl
  cases h

end State

namespace Event

/-- The events of a run along the slots, after its start. -/
def scans : Event → Bool
  | atScanPos | nextSlot | finishedScanning | finishedPresenceDetection => true
  | _ => false

/-- A run along the slots stays on its side of the mounted axis. -/
theorem scanning_of_target {event : Event} {source target : State}
    (he : event.scans = true) (h : event.target? source = some target) :
    source.scanning = true ∧ target.scanning = true ∧ target.mounted = source.mounted := by
  have hmem := mem_transitions h
  cases event <;> cases he <;>
    simp only [transitions, List.mem_cons, Prod.mk.injEq, List.not_mem_nil, or_false] at hmem
  case atScanPos => rcases hmem with ⟨rfl, rfl⟩ | ⟨rfl, rfl⟩ <;> decide
  case nextSlot =>
    rcases hmem with ⟨rfl, rfl⟩ | ⟨rfl, rfl⟩ | ⟨rfl, rfl⟩ | ⟨rfl, rfl⟩ <;> decide
  case finishedScanning => rcases hmem with ⟨rfl, rfl⟩ | ⟨rfl, rfl⟩ <;> decide
  case finishedPresenceDetection => rcases hmem with ⟨rfl, rfl⟩ | ⟨rfl, rfl⟩ <;> decide

/-- A finished program leaves the arm at home, with a sample if there was one or one was being
mounted. -/
theorem rest_of_finished {source target : State}
    (h : programFinished.target? source = some target) (hs : source ≠ .unmountingSwitch) :
    (target = .home ∧ source ≠ .mounting ∧ source.mounted = false) ∨
      (target = .homeMounted ∧ (source = .mounting ∨ source.mounted = true)) := by
  have hmem := mem_transitions h
  simp only [transitions, List.mem_cons, Prod.mk.injEq, List.not_mem_nil, or_false] at hmem
  rcases hmem with ⟨rfl, rfl⟩ | ⟨rfl, rfl⟩ | ⟨rfl, rfl⟩ | ⟨rfl, rfl⟩ | ⟨rfl, rfl⟩ | ⟨rfl, rfl⟩ |
    ⟨rfl, rfl⟩ | ⟨rfl, rfl⟩ | ⟨rfl, rfl⟩ | ⟨rfl, rfl⟩
  case inr.inr.inl => exact absurd rfl hs
  all_goals decide

end Event

namespace Changer

variable {c : Changer} {event : Event} {label : Option String}

/-! ### Steps along the slots -/

/-- A step of a scan is refused, or it is one transition under the tag of the scan. -/
theorem advance_cases (he : event.scans = true) (hs : c.state ≠ .homeSwitch) :
    (event.target? c.state = none ∧ c.advance event = c) ∨
      ∃ state, event.target? c.state = some state ∧
        c.advance event = c.arrive event state (c.machine.tag.getD event.id) none := by
  cases h : event.target? c.state with
  | none => exact Or.inl ⟨rfl, by rw [advance, fire_refused h]⟩
  | some state =>
    have hto : state ≠ .homeSwitch :=
      State.ne_homeSwitch_of_scanning (Event.scanning_of_target he h).2.1
    exact Or.inr ⟨state, rfl, by rw [advance, fire_of_target h hto hs]⟩

theorem advance_of_not_scanning (he : event.scans = true) (hs : c.state.scanning = false) :
    c.advance event = c := by
  have htarget : event.target? c.state = none := by
    cases h : event.target? c.state with
    | none => rfl
    | some state => rw [(Event.scanning_of_target he h).1] at hs; cases hs
  rw [advance, fire_refused htarget]

/-- A step of a scan is a matter of the machine, and it never leads to `homeSwitch`. -/
theorem advance_eq (event : Event) (he : event.scans = true) (hs : c.state ≠ .homeSwitch) :
    ∃ machine told, c.advance event = { c with machine := machine, told := told } ∧
      machine.state ≠ .homeSwitch := by
  rcases advance_cases he hs with ⟨-, h⟩ | ⟨state, htarget, h⟩
  · exact ⟨c.machine, c.told, h, hs⟩
  · exact ⟨_, _, h, State.ne_homeSwitch_of_scanning (Event.scanning_of_target he htarget).2.1⟩

theorem stepAfter_scans (slot : Nat) (last : Event) (h : last.scans = true) :
    (c.stepAfter slot last).scans = true := by
  unfold stepAfter
  split
  · exact h
  · rfl

/-! ### Messages other than good acknowledgements -/

/-- No such message touches the mounted sample or the queue of waiting ones. -/
theorem hear_of_ne_ok {message : Message} (hs : c.state ≠ .homeSwitch) (hm : message ≠ .ok)
    (label : Option String) :
    ∃ machine magazine pending told,
      c.hear message label = { c with
        machine := machine, magazine := magazine, pending := pending, told := told } := by
  cases message with
  | slot slot present =>
    rw [hear_slot]
    split
    · exact ⟨c.machine, c.magazine, c.pending, c.told, rfl⟩
    · obtain ⟨magazine, hnoted⟩ := c.notePresence_fst (slot - 1) present
      rw [hnoted]
      obtain ⟨machine, told, hmoved, -⟩ :=
        advance_eq (c := { c with magazine := magazine }) _
          (stepAfter_scans slot .finishedPresenceDetection rfl) hs
      exact ⟨machine, magazine, c.pending, told, hmoved⟩
  | qr slot =>
    rw [hear_code]
    split
    · exact ⟨c.machine, c.magazine, c.pending, c.told, rfl⟩
    split
    · obtain ⟨machine, told, hreached, hsettled⟩ := advance_eq (c := c) .atScanPos rfl hs
      obtain ⟨magazine, hnoted⟩ := (c.advance .atScanPos).noteLabel_eq (slot - 1) label
      rw [hreached] at hnoted ⊢
      dsimp only
      rw [hnoted]
      obtain ⟨machine', told', hmoved, -⟩ :=
        advance_eq (c := { c with machine := machine, magazine := magazine, told := told }) _
          (stepAfter_scans slot .finishedScanning rfl) hsettled
      exact ⟨machine', magazine, c.pending, told', hmoved⟩
    · exact ⟨c.machine, c.magazine, c.pending, c.told, rfl⟩
  | get key => exact ⟨c.machine, c.magazine, c.pending, c.told, rfl⟩
  | ok => exact absurd rfl hm
  | error text =>
    rcases hear_error_eq (c := c) text label with heq | heq
    · exact ⟨c.machine, c.magazine, c.pending, c.told, heq⟩
    · exact ⟨c.machine, c.magazine, none, c.told, heq⟩

theorem advance_scanning (he : event.scans = true) (hs : c.state.scanning = true) :
    (c.advance event).state.scanning = true := by
  rcases advance_cases he (State.ne_homeSwitch_of_scanning hs) with ⟨-, h⟩ | ⟨state, htarget, h⟩
  · rw [h]; exact hs
  · rw [h]; exact (Event.scanning_of_target he htarget).2.1

/-- No such message ends a run along the slots. -/
theorem hear_scanning {message : Message} (hs : c.state.scanning = true) (hm : message ≠ .ok)
    (label : Option String) :
    (c.hear message label).state.scanning = true := by
  cases message with
  | slot slot present =>
    rw [hear_slot]
    split
    · exact hs
    · obtain ⟨magazine, hnoted⟩ := c.notePresence_fst (slot - 1) present
      rw [hnoted]
      exact advance_scanning (c := { c with magazine := magazine }) (stepAfter_scans slot _ rfl) hs
  | qr slot =>
    rw [hear_code]
    split
    · exact hs
    split
    · obtain ⟨magazine, hnoted⟩ := (c.advance .atScanPos).noteLabel_eq (slot - 1) label
      dsimp only
      rw [hnoted]
      exact advance_scanning (c := { c.advance .atScanPos with magazine := magazine })
        (stepAfter_scans slot _ rfl) (advance_scanning rfl hs)
    · exact hs
  | get key => exact hs
  | ok => exact absurd rfl hm
  | error text => rcases hear_error_eq (c := c) text label with heq | heq <;> rw [heq] <;> exact hs

/-- Outside a run along the slots, a report on a slot is a matter of the books alone. -/
theorem hear_slot_of_not_scanning (slot : Nat) (present : Bool) (hs : c.state.scanning = false) :
    c.hear (.slot slot present) label
      = if c.magazine.size < slot then c else (c.notePresence (slot - 1) present).1 := by
  obtain ⟨magazine, hnoted⟩ := c.notePresence_fst (slot - 1) present
  have hstate : (c.notePresence (slot - 1) present).1.state = c.state := by rw [hnoted]; rfl
  rw [hear_slot, advance_of_not_scanning (stepAfter_scans slot _ rfl) (by rw [hstate]; exact hs)]

theorem hear_code_of_not_scanning (slot : Nat) (hs : c.state.scanning = false) :
    c.hear (.qr slot) label = c := by
  have hnot : ¬(c.state = .movingToScanPos ∨ c.state = .movingToScanPosMounted) := by
    rintro (h | h) <;> rw [h] at hs <;> cases hs
  rw [hear_code, if_neg hnot, ite_self]

/-- Outside a run along the slots, such a message leaves the machine alone as well. -/
theorem hear_of_not_scanning {message : Message} (hs : c.state.scanning = false)
    (hm : message ≠ .ok) (label : Option String) :
    ∃ magazine pending,
      c.hear message label = { c with magazine := magazine, pending := pending } := by
  cases message with
  | slot slot present =>
    rw [hear_slot_of_not_scanning slot present hs]
    split
    · exact ⟨c.magazine, c.pending, rfl⟩
    · obtain ⟨magazine, hnoted⟩ := c.notePresence_fst (slot - 1) present
      exact ⟨magazine, c.pending, hnoted⟩
  | qr slot => exact ⟨c.magazine, c.pending, hear_code_of_not_scanning slot hs⟩
  | get key => exact ⟨c.magazine, c.pending, rfl⟩
  | ok => exact absurd rfl hm
  | error text =>
    rcases hear_error_eq (c := c) text label with heq | heq
    · exact ⟨c.magazine, c.pending, heq⟩
    · exact ⟨c.magazine, none, heq⟩

/-! ### The books of a good acknowledgement -/

/-- What a good acknowledgement does to the books, by the state. -/
def acknowledge (c : Changer) : Changer :=
  match c.state with
  | .loading | .loadingMounted => c.finishLoad.1
  | .unloading | .unloadingMounted => c.finishUnload.1
  | .mounting => c.finishMount.1
  | .unmounting | .unmountingSwitch => c.finishUnmount.1
  | .home | .homeMounted | .homeSwitch => c
  | _ => c.dropPending

/-- With a tag that fits the state, the handlers found are those of the state. -/
theorem dispatch_ok {arg : Option String} (h : c.state.Wears c.machine.tag) :
    (ownBus.dispatch c .ok c.tagOrEmpty arg).1 = c.acknowledge := by
  unfold acknowledge tagOrEmpty
  unfold State.Wears at h
  split at h
  · rename_i work hwork
    rw [h, Option.getD_some]
    cases hs : c.state <;> rw [hs] at hwork <;> cases hwork
    all_goals rfl
  · rename_i hwork
    have hnone : (ownBus.dispatch c .ok (c.machine.tag.getD "") arg).1 = c := by
      rcases h with h | h <;> rw [h] <;> exact dispatch_of_not_mem (by decide)
    rw [hnone]
    cases hs : c.state <;> simp_all [State.workTag?]

/-- Away from rest, the books are closed: nothing is pending any more. -/
theorem acknowledge_eq (hr : c.state.atRest = false) (hs : c.state ≠ .homeSwitch) :
    ∃ magazine mounted,
      c.acknowledge = { c with magazine := magazine, mounted := mounted, pending := none } := by
  unfold acknowledge
  split
  · obtain ⟨magazine, h⟩ := c.finishLoad_fst; exact ⟨magazine, c.mounted, h⟩
  · obtain ⟨magazine, h⟩ := c.finishLoad_fst; exact ⟨magazine, c.mounted, h⟩
  · obtain ⟨magazine, h⟩ := c.finishUnload_fst; exact ⟨magazine, c.mounted, h⟩
  · obtain ⟨magazine, h⟩ := c.finishUnload_fst; exact ⟨magazine, c.mounted, h⟩
  · unfold finishMount
    split
    · exact ⟨c.magazine, _, rfl⟩
    · exact ⟨c.magazine, c.mounted, rfl⟩
  · exact ⟨c.magazine, none, rfl⟩
  · exact ⟨c.magazine, none, rfl⟩
  · simp_all [State.atRest]
  · simp_all [State.atRest]
  · simp_all
  · exact ⟨c.magazine, c.mounted, rfl⟩

theorem acknowledge_pending (hr : c.state.atRest = false) (hs : c.state ≠ .homeSwitch) :
    c.acknowledge.pending = none := by
  obtain ⟨magazine, mounted, heq⟩ := acknowledge_eq hr hs
  rw [heq]

theorem acknowledge_of_rest (hr : c.state.atRest = true) : c.acknowledge = c := by
  unfold acknowledge
  rcases State.eq_of_atRest hr with hs | hs <;> rw [hs]

theorem acknowledge_of_scanning (hs : c.state.scanning = true) : c.acknowledge = c.dropPending := by
  unfold acknowledge
  cases h : c.state <;> rw [h] at hs <;> first | rfl | cases hs

theorem acknowledge_machine (c : Changer) : c.acknowledge.machine = c.machine := by
  by_cases hr : c.state.atRest = true
  · rw [acknowledge_of_rest hr]
  · by_cases hs : c.state = .homeSwitch
    · simp only [acknowledge, hs]
    · obtain ⟨magazine, mounted, heq⟩ := acknowledge_eq (by simpa using hr) hs
      rw [heq]

theorem acknowledge_state (c : Changer) : c.acknowledge.state = c.state := by
  rw [state, acknowledge_machine]
  rfl

/-- The sample at the measurement position after the books of an acknowledgement. -/
theorem acknowledge_mounted (c : Changer) :
    c.acknowledge.mounted
      = match c.state, c.machine.mountTarget with
        | .mounting, some id => some id
        | .unmounting, _ | .unmountingSwitch, _ => none
        | _, _ => c.mounted := by
  unfold acknowledge
  cases hs : c.state
  case loading => obtain ⟨magazine, h⟩ := c.finishLoad_fst; rw [h]
  case loadingMounted => obtain ⟨magazine, h⟩ := c.finishLoad_fst; rw [h]
  case unloading => obtain ⟨magazine, h⟩ := c.finishUnload_fst; rw [h]
  case unloadingMounted => obtain ⟨magazine, h⟩ := c.finishUnload_fst; rw [h]
  case mounting => cases ht : c.machine.mountTarget <;> simp only [finishMount, ht, dropPending]
  all_goals rfl

/-- Out of the gripper's reach the mounted sample stays. -/
theorem acknowledge_mounted_of_not_transit (h : c.state.inTransit = false) :
    c.acknowledge.mounted = c.mounted := by
  rw [acknowledge_mounted]
  cases hs : c.state <;> rw [hs] at h <;> first | rfl | cases h

/-! ### The pending program -/

/-- The tag is that of a program exactly while one runs. -/
theorem tag_mem_programTags (htag : c.state.Wears c.machine.tag) (hs : c.state ≠ .homeSwitch) :
    c.tagOrEmpty ∈ programTags ↔ c.state.atRest = false := by
  unfold tagOrEmpty
  unfold State.Wears at htag
  split at htag
  · rename_i work hwork
    rw [htag, Option.getD_some]
    cases hstate : c.state <;> rw [hstate] at hwork <;> cases hwork <;> decide
  · rename_i hwork
    have hrest : c.state.atRest = true := by
      cases hstate : c.state <;> simp_all [State.workTag?, State.atRest]
    rw [hrest]
    rcases htag with htag | htag <;> rw [htag] <;> decide

/-- While a program runs, an acknowledgement ends it in the books, whether it is good or bad. -/
theorem hear_pending_eq (htag : c.state.Wears c.machine.tag) (hs : c.state ≠ .homeSwitch)
    (message : Message) (label : Option String) :
    (c.hear message label).pending = match message with
      | .ok | .error _ => if c.state.atRest then c.pending else none
      | _ => c.pending := by
  cases message with
  | slot slot present =>
    rw [hear_slot]
    split
    · rfl
    · obtain ⟨magazine, hnoted⟩ := c.notePresence_fst (slot - 1) present
      rw [hnoted]
      rfl
  | qr slot =>
    rw [hear_code]
    split
    · rfl
    split
    · obtain ⟨magazine, hnoted⟩ := (c.advance .atScanPos).noteLabel_eq (slot - 1) label
      rw [hnoted]
      rfl
    · rfl
  | get key => rfl
  | ok =>
    rw [hear_ok, dispatch_ok htag]
    show c.acknowledge.pending = if c.state.atRest then c.pending else none
    split
    · rename_i hr
      rw [acknowledge_of_rest hr]
    · rename_i hr
      exact acknowledge_pending (by simpa using hr) hs
  | error text =>
    have hmem := tag_mem_programTags htag hs
    show _ = if c.state.atRest then c.pending else none
    split
    · rename_i hr
      have hsame : c.hear (.error text) label = c :=
        dispatch_of_not_mem (by rw [hmem, hr]; exact Bool.noConfusion)
      rw [hsame]
    · rename_i hr
      have hdropped : c.hear (.error text) label = c.dropPending :=
        dispatch_error (hmem.mpr (by simpa using hr))
      rw [hdropped]
      rfl

/-! ### Good acknowledgements -/

/-- At rest an acknowledgement means nothing. -/
theorem hear_ok_of_rest (htag : c.state.Wears c.machine.tag) (hr : c.state.atRest = true) :
    c.hear .ok label = c := by
  have htarget : Event.programFinished.target? c.state = none := by
    rcases State.eq_of_atRest hr with hs | hs <;> rw [hs] <;> rfl
  rw [hear_ok, dispatch_ok htag, acknowledge_of_rest hr, fire_refused htarget]

/-- An acknowledgement that comes too early: the books alone. -/
theorem hear_ok_of_early (htag : c.state.Wears c.machine.tag)
    (ht : Event.programFinished.target? c.state = none) :
    c.hear .ok label = c.acknowledge := by
  rw [hear_ok, dispatch_ok htag, fire_refused (by rw [acknowledge_state]; exact ht)]

/-- An acknowledgement that ends a program: the books, then one transition. -/
theorem hear_ok_of_target {state : State} (htag : c.state.Wears c.machine.tag)
    (hs : c.state ≠ .homeSwitch) (ht : Event.programFinished.target? c.state = some state)
    (hto : state ≠ .homeSwitch) (label : Option String) :
    c.hear .ok label
      = c.acknowledge.arrive .programFinished state Event.programFinished.id none := by
  rw [hear_ok, dispatch_ok htag,
    fire_of_target (by rw [acknowledge_state]; exact ht) hto (by rw [acknowledge_state]; exact hs)]
  rfl

/-- An acknowledgement of the first half of a switch: the position is empty, and the mount of the
next sample is under way, without a program. -/
theorem hear_ok_of_switch {next : String} (htag : c.state.Wears c.machine.tag)
    (hs : c.state = .unmountingSwitch) (hn : c.machine.nextSample = some next) :
    c.hear .ok label = { c with mounted := none, pending := none }.switched next := by
  have hack : c.acknowledge = { c with mounted := none, pending := none } := by
    simp only [acknowledge, hs]
    exact finishUnmount_fst
  rw [hear_ok, dispatch_ok htag, hack,
    fire_switch (c := { c with mounted := none, pending := none }) hs hn]

end Changer

end Autosampler

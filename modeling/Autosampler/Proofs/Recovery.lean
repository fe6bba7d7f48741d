import Autosampler.Proofs.Rollback
import Autosampler.Proofs.SlotChanges

/-!
# A reset always recovers

A reset looks at the state alone, and takes the measurement position to be what the state says.
In every changer that can be reached it is, so that a reset leads to the rest state that fits, with
nothing under way.  The only sample that it gives up is the one in the gripper.

* `Changer.InGripper` — the sample that the arm carries, by the state;
* `Changer.dropped_eq_some_iff`, `Changer.reset_slot` — the sample that a reset gives up, and what
  becomes of its slot;
* `Changer.reset_mounted`, `Consistent.restState_of_not_transit` — the measurement position and the
  rest state after a reset;
* `Changer.reset_reset` — a second reset;
* `reset_recovers` — all that a reset does, in every changer that can be reached.
-/

namespace Autosampler

namespace Changer

variable {c : Changer} {id : String}

/-! ### The sample in the gripper -/

/-- The arm carries the sample: to the measurement position, or back from there. -/
def InGripper (c : Changer) (id : String) : Prop :=
  c.state = .mounting ∧ c.machine.mountTarget = some id ∨
    (c.state = .unmounting ∨ c.state = .unmountingSwitch) ∧ c.mounted = some id

/-- The sample that falls is the one that the arm carries. -/
theorem dropped_eq_some_iff : c.dropped = some id ↔ c.InGripper id := by
  unfold dropped InGripper
  cases c.state <;> simp

/-- A reset empties the slot of the sample in the gripper, and no other one. -/
theorem reset_slot (c : Changer) :
    (∀ id, c.InGripper id → c.magazine.slotOf? id = none) ∧ c.reset.1.magazine = c.magazine ∨
      ∃ id slot, c.InGripper id ∧ c.magazine.slotOf? id = some slot ∧
        c.reset.1.magazine = c.magazine.put slot "" := by
  rw [reset_magazine]
  cases hdropped : c.dropped with
  | none =>
    refine Or.inl ⟨fun id hid => ?_, rfl⟩
    rw [dropped_eq_some_iff.mpr hid] at hdropped
    cases hdropped
  | some id =>
    have hgripper := dropped_eq_some_iff.mp hdropped
    show _ ∧ c.magazine.apply (.remove id) = c.magazine ∨ _
    cases hslot : c.magazine.slotOf? id with
    | none =>
      refine Or.inl ⟨fun other hother => ?_, ?_⟩
      · rw [dropped_eq_some_iff.mpr hother] at hdropped
        cases hdropped
        exact hslot
      · simp only [Magazine.apply, Magazine.without, Magazine.remove, hslot]
    | some slot => exact Or.inr ⟨id, slot, hgripper, hslot, Magazine.apply_remove hslot⟩

/-! ### The rest state -/

/-- A sample on its way is lost, and the measurement position is taken to be empty. -/
theorem reset_mounted (c : Changer) :
    c.reset.1.mounted = if c.state.inTransit then none else c.mounted := by
  unfold reset abort
  split <;> rfl

theorem restState_atRest (state : State) : (restState state).atRest = true := by
  cases state <;> rfl

/-- At rest, a reset is one more forced transition. -/
theorem reset_of_rest (hr : c.state.atRest = true) : c.reset.1 = c.abort c.state := by
  unfold reset
  rcases State.eq_of_atRest hr with hs | hs <;> rw [hs] <;> rfl

/-- A second reset is only counted. -/
theorem reset_reset (c : Changer) :
    c.reset.1.reset.1
      = { c.reset.1 with
          machine := { c.reset.1.machine with count := c.reset.1.machine.count + 1 } } := by
  rw [reset_of_rest (c := c.reset.1) (restState_atRest c.state)]
  rfl

/-! ### Commands that reset -/

theorem step_stop (c : Changer) (answer : Order → Answer) :
    c.step (.command .stop answer) = match answer .stop with
      | .ok _ => c.reset.1
      | .error _ => c := by
  simp only [step, Changer.command, order, Action.carryOut]
  cases answer .stop <;> rfl

theorem step_reset (c : Changer) (answer : Order → Answer) :
    c.step (.command .reset answer) = c.reset.1 := by
  simp only [step, Changer.command, order, Action.carryOut]
  cases answer (.run Program.reset.fileName "reset") <;> rfl

end Changer

/-- With the arm empty, the side of the state is the side of the measurement position. -/
theorem Consistent.restState_of_not_transit {c : Changer} (h : Consistent c)
    (ht : c.state.inTransit = false) :
    Changer.restState c.state = if c.mounted.isSome then .homeMounted else .home := by
  have hside : c.mounted.isSome = c.state.mounted := by
    rw [Bool.eq_iff_iff, h.mounted]
    cases hs : c.state <;> rw [hs] at ht <;> first | rfl | cases ht
  rw [Changer.restState, ht, hside]
  rfl

/-- **A reset always recovers.**  In every changer that can be reached, a reset leads to the rest
state that fits the measurement position, and a sample on its way is lost.  Nothing is under way any
more: no tag, no pending program, no sample that is next or being mounted.  If the arm carried a
sample that has a slot, that slot is emptied, and the magazine is as before else.  A second reset is
only counted.  The command to reset does all this, and so does the command to stop; if the robot
refuses to stop, nothing happens. -/
theorem reset_recovers {c : Changer} (h : Reached c) :
    let after := c.reset.1
    after.state = c.reset.2 ∧
      (if c.mounted.isSome ∧ c.state.inTransit = false then
        after.state = .homeMounted ∧ after.mounted = c.mounted
      else after.state = .home ∧ after.mounted = none) ∧
      (after.machine.tag = none ∧ after.pending = none ∧ after.machine.nextSample = none ∧
        after.machine.mountTarget = none) ∧
      ((∀ id, c.InGripper id → c.magazine.slotOf? id = none) ∧ after.magazine = c.magazine ∨
        ∃ id slot, c.InGripper id ∧ c.magazine.slotOf? id = some slot ∧
          after.magazine = c.magazine.put slot "") ∧
      after.reset.1
        = { after with machine := { after.machine with count := after.machine.count + 1 } } ∧
      ∀ answer, c.step (.command .reset answer) = after ∧
        c.step (.command .stop answer) = match answer .stop with
          | .ok _ => after
          | .error _ => c := by
  intro after
  refine ⟨rfl, ?_, ⟨rfl, rfl, rfl, rfl⟩, c.reset_slot, c.reset_reset,
    fun answer => ⟨c.step_reset answer, c.step_stop answer⟩⟩
  have hmounted : after.mounted = if c.state.inTransit then none else c.mounted := c.reset_mounted
  have hstate : after.state = Changer.restState c.state := rfl
  by_cases ht : c.state.inTransit = true
  · rw [if_neg fun hboth => Bool.noConfusion (ht.symm.trans hboth.2), hmounted, if_pos ht, hstate,
      Changer.restState, if_pos ht]
    exact ⟨rfl, rfl⟩
  · have hcalm : c.state.inTransit = false := by simpa using ht
    rw [hmounted, if_neg ht, hstate, h.consistent.restState_of_not_transit hcalm]
    cases hm : c.mounted with
    | none => exact ⟨rfl, rfl⟩
    | some id => simp [hcalm]

/-- A sample is on its way to the measurement position. -/
def onTheWay : Changer := (Changer.ofSize 2).run (loadOne ++ [.command (.mount "@0") willing])

theorem reset_recovers_on_the_way :
    Reached onTheWay ∧ onTheWay.state = .mounting ∧ onTheWay.magazine.slots = ["@0", ""] ∧
      (onTheWay.step (.command .stop willing)).state = .home ∧
      (onTheWay.step (.command .stop willing)).magazine.slots = ["", ""] ∧
      onTheWay.step (.command .stop unwilling) = onTheWay := by
  have hreached : Reached onTheWay := (Reached.empty 2).run _
  have hs : onTheWay.state = .mounting := by decide +kernel
  have hslots : onTheWay.magazine.slots = ["@0", ""] := by decide +kernel
  obtain ⟨-, hrest, -, hslot, -, hcommands⟩ := reset_recovers hreached
  have hgripper : onTheWay.InGripper "@0" := Or.inl ⟨hs, by decide +kernel⟩
  have hfound : onTheWay.magazine.slotOf? "@0" = some 0 := by decide +kernel
  have hstopped : onTheWay.step (.command .stop willing) = onTheWay.reset.1 := (hcommands willing).2
  rw [if_neg fun hboth => by rw [hs] at hboth; cases hboth.2] at hrest
  refine ⟨hreached, hs, hslots, by rw [hstopped]; exact hrest.1, ?_, (hcommands unwilling).2⟩
  rw [hstopped]
  rcases hslot with ⟨hnone, -⟩ | ⟨id, slot, hid, hslot, hmagazine⟩
  · rw [hnone "@0" hgripper] at hfound
    cases hfound
  · have hsame : id = "@0" := by
      have hboth := (Changer.dropped_eq_some_iff.mpr hid).symm.trans
        (Changer.dropped_eq_some_iff.mpr hgripper)
      exact Option.some.inj hboth
    rw [hsame, hfound] at hslot
    cases hslot
    rw [hmagazine, Magazine.put, hslots]
    rfl

end Autosampler

import Autosampler.Proofs.Messages
import Autosampler.Proofs.Planning

/-!
# Runs of the changer

Operators, the robot and the queue of waiting mounts act on the changer in any order, one atomic
step after the other.  The robot's answers and what the camera shows are part of the step, so a
run is a list of moves and everything about it is a function of that list.

* `Move`, `Changer.step`, `Changer.run` — the steps, and the changer after a list of them;
* `Changer.calls` — what the robot was asked in a step, with its answers;
* `Changer.Along` — a property of every changer on the way;
* `Changer.Delivered`, `Changer.delivered` — the five things that come of a delivery.
-/

namespace Autosampler

/-- An atomic step. -/
inductive Move where
  /-- A command of an operator, with the robot's answers to the orders that it leads to. -/
  | command (command : Command) (answer : Order → Answer)
  /-- A message of the robot, with the label that the camera would show. -/
  | message (message : Message) (label : Option String)
  /-- The delivery of the oldest waiting sample, with the robot's answers. -/
  | deliver (answer : Order → Answer)

/-- A move is a delivery. -/
def Move.isDelivery : Move → Bool
  | .deliver _ => true
  | _ => false

/-- A robot that accepts every order. -/
def willing : Order → Answer := fun _ => .ok ()

/-- A robot that refuses every order. -/
def unwilling : Order → Answer := fun _ => .error "protective stop"

/-- A sample is loaded, and the robot acknowledges it. -/
def loadOne : List Move := [.command .load willing, .message .ok none]

namespace Changer

/-! ### Steps and runs -/

/-- The changer after one step.  Without a waiting sample there is nothing to deliver. -/
def step (c : Changer) : Move → Changer
  | .command command answer => ((c.command command).carryOut answer).changer
  | .message message label => c.hear message label
  | .deliver answer =>
    match c.takeChained with
    | none => c
    | some (id, taken) => ((taken.resume id).carryOut answer).changer

/-- The orders of one step, each with the robot's answer. -/
def calls (c : Changer) : Move → List (Order × Answer)
  | .command command answer =>
    ((c.command command).carryOut answer).orders.map fun order => (order, answer order)
  | .message _ _ => []
  | .deliver answer =>
    match c.takeChained with
    | none => []
    | some (id, taken) =>
      ((taken.resume id).carryOut answer).orders.map fun order => (order, answer order)

/-- The changer after a list of steps. -/
def run (c : Changer) (moves : List Move) : Changer := moves.foldl step c

@[simp] theorem run_nil (c : Changer) : c.run [] = c := rfl

@[simp] theorem run_cons (c : Changer) (move : Move) (moves : List Move) :
    c.run (move :: moves) = (c.step move).run moves := rfl

theorem run_append (c : Changer) (before after : List Move) :
    c.run (before ++ after) = (c.run before).run after := List.foldl_append

/-- A planned command that the robot accepts. -/
theorem step_of_plan {c c' : Changer} {command : Command} {p : Plan}
    (hplan : c.plan command = (c', .ok (some p))) :
    c.step (.command command willing) = c'.started p := by
  have hexecute := execute_of_planned (planned_of_plan hplan)
  simp only [step, command_of_plan hplan, hexecute]
  rfl

/-- What every step keeps, a run keeps. -/
theorem run_induction {P : Changer → Prop} (hstep : ∀ c move, P c → P (c.step move)) {c : Changer}
    (h : P c) (moves : List Move) : P (c.run moves) := by
  induction moves generalizing c with
  | nil => exact h
  | cons move moves ih => exact ih (hstep c move h)

/-- Every changer on the way, the first and the last included, has a property. -/
def Along (P : Changer → Prop) : Changer → List Move → Prop
  | c, [] => P c
  | c, move :: moves => P c ∧ Along P (c.step move) moves

instance Along.decidable {P : Changer → Prop} [DecidablePred P] :
    (c : Changer) → (moves : List Move) → Decidable (Along P c moves)
  | c, [] => inferInstanceAs (Decidable (P c))
  | c, move :: moves =>
    have := Along.decidable (P := P) (c.step move) moves
    inferInstanceAs (Decidable (P c ∧ Along P (c.step move) moves))

theorem Along.head {P : Changer → Prop} {c : Changer} {moves : List Move} (h : Along P c moves) :
    P c := by
  cases moves with
  | nil => exact h
  | cons move moves => exact h.1

theorem Along.last {P : Changer → Prop} {c : Changer} {moves : List Move} (h : Along P c moves) :
    P (c.run moves) := by
  induction moves generalizing c with
  | nil => exact h
  | cons move moves ih => exact ih h.2

/-- What every step keeps holds on the whole way. -/
theorem along_of_step {P : Changer → Prop} (hstep : ∀ c move, P c → P (c.step move)) {c : Changer}
    (h : P c) (moves : List Move) : Along P c moves := by
  induction moves generalizing c with
  | nil => exact h
  | cons move moves ih => exact ⟨h, ih (hstep c move h)⟩

theorem Along.append {P : Changer → Prop} {c : Changer} {before after : List Move}
    (hbefore : Along P c before) (hafter : Along P (c.run before) after) :
    Along P c (before ++ after) := by
  induction before generalizing c with
  | nil => exact hafter
  | cons move before ih => exact ⟨hbefore.1, ih hbefore.2 hafter⟩

/-! ### Deliveries -/

variable {c : Changer} {id : String}

/-- Outside a mount, a waiting sample is put aside without effect. -/
theorem resume_elsewhere (h : c.state ≠ .mounting) :
    c.resume id = .done c (.error (.transition ⟨.mount, c.state⟩)) := if_neg h

/-- During a mount, a sample that is not stored any more ends the mount. -/
theorem resume_missing (h : c.state = .mounting) (hid : c.magazine.slotOf? id = none) :
    c.resume id = .done (c.abort .home) (.error (.magazine (.unknownSample id))) := by
  simp only [resume, if_pos h, slotOf, hid]

/-- During a mount, the program for the slot of a waiting sample is asked for. -/
theorem resume_stored {slot : Nat} (h : c.state = .mounting)
    (hid : c.magazine.slotOf? id = some slot) :
    c.resume id = .ask { c with pending := some (.mount slot) }
      (.run (Program.mount slot).fileName "mount") fun now answer =>
        match answer with
        | .ok _ => (now, .ok .mounting)
        | .error reason => (now.abort .home, .error (.driver reason)) := by
  have hslot : c.slotOf id = .ok slot := slotOf_eq_ok.mpr hid
  unfold resume
  rw [if_pos h]
  split
  · rename_i heq
    rw [hslot] at heq
    cases heq
  · rename_i heq
    rw [hslot] at heq
    cases heq
    rfl

/-- The changer without its oldest waiting sample. -/
def untied (c : Changer) : Changer := { c with chained := c.chained.tail }

/-- What a delivery can come to: the changer after it, and the orders with their answers. -/
inductive Delivered (c : Changer) (answer : Order → Answer) :
    Changer → List (Order × Answer) → Prop
  /-- No sample waits. -/
  | nothing (empty : c.chained = []) : Delivered c answer c []
  /-- No mount is under way, and the sample is put aside. -/
  | aside {id : String} {rest : List String} (waits : c.chained = id :: rest)
      (elsewhere : c.state ≠ .mounting) : Delivered c answer c.untied []
  /-- The sample is not stored any more, and the mount ends. -/
  | missing {id : String} {rest : List String} (waits : c.chained = id :: rest)
      (mounting : c.state = .mounting) (gone : c.magazine.slotOf? id = none) :
      Delivered c answer (c.untied.abort .home) []
  /-- The program for the sample's slot is started. -/
  | started {id : String} {rest : List String} {slot : Nat} (waits : c.chained = id :: rest)
      (mounting : c.state = .mounting) (stored : c.magazine.slotOf? id = some slot)
      (accepted : answer (.run (Program.mount slot).fileName "mount") = .ok ()) :
      Delivered c answer { c.untied with pending := some (.mount slot) }
        [(.run (Program.mount slot).fileName "mount", .ok ())]
  /-- The program for the sample's slot is refused, and the mount ends. -/
  | refused {id : String} {rest : List String} {slot : Nat} {reason : String}
      (waits : c.chained = id :: rest) (mounting : c.state = .mounting)
      (stored : c.magazine.slotOf? id = some slot)
      (answered : answer (.run (Program.mount slot).fileName "mount") = .error reason) :
      Delivered c answer (c.untied.abort .home)
        [(.run (Program.mount slot).fileName "mount", .error reason)]

/-- Every delivery comes to one of the five. -/
theorem delivered (c : Changer) (answer : Order → Answer) :
    Delivered c answer (c.step (.deliver answer)) (c.calls (.deliver answer)) := by
  cases hw : c.chained with
  | nil =>
    have htake : c.takeChained = none := by simp only [takeChained, hw]
    simp only [step, calls, htake]
    exact .nothing hw
  | cons id rest =>
    have htake : c.takeChained = some (id, c.untied) := by
      simp only [takeChained, hw, untied, List.tail_cons]
    simp only [step, calls, htake]
    by_cases helse : c.state ≠ .mounting
    · rw [resume_elsewhere (c := c.untied) helse]
      exact .aside hw helse
    have hs : c.untied.state = .mounting := Decidable.not_not.mp helse
    cases hid : c.magazine.slotOf? id with
    | none =>
      rw [resume_missing hs hid]
      exact .missing hw hs hid
    | some slot =>
      rw [resume_stored hs hid]
      cases hanswer : answer (.run (Program.mount slot).fileName "mount") with
      | ok u =>
        simp only [Action.carryOut, hanswer, List.map_cons, List.map_nil]
        exact .started hw hs hid hanswer
      | error reason =>
        simp only [Action.carryOut, hanswer, List.map_cons, List.map_nil]
        exact .refused hw hs hid hanswer

end Changer

end Autosampler

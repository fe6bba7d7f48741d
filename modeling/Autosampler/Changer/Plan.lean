import Autosampler.Changer.Basic
import Autosampler.Command

/-!
# Plans

A command that moves the arm is first checked against the state and the magazine.  The result is
a plan: the program to start, and the event that announces it.

* `Plan` — program, event, tag and sample;
* `Changer.planMount` — a mount, which is a switch if a sample is mounted already;
* `Changer.chooseNext` — the sample whose turn it is;
* `Changer.plan` — the plan of a command.
-/

namespace Autosampler

/-- A checked command. -/
structure Plan where
  program : Program
  event : Event
  tag : String
  sample : Option String
deriving DecidableEq

/-- What the event of a plan carries. -/
def Plan.args (p : Plan) : FireArgs := ⟨some p.tag, p.sample⟩

/-- The tag of a mount that has to return the mounted sample first. -/
def switchTag : String := "switch"

namespace Changer

/-! ### Conditions -/

/-- The changer has to be at home, with or without a mounted sample. -/
def requireRest (c : Changer) : Except Error Unit :=
  if c.state.atRest then .ok () else .error (.notAtHome c.state)

/-! ### Single commands -/

/-- A new sample goes into the first free slot. -/
def planLoad (c : Changer) : Except Error Plan := do
  c.requireRest
  match c.magazine.firstFree? with
  | none => .error .noFreeSlot
  | some slot => .ok ⟨.load slot, .load, "load", some (placeholder slot)⟩

/-- A sample leaves the magazine, unless it is mounted. -/
def planUnload (c : Changer) (id : String) : Except Error Plan := do
  c.requireRest
  if c.mounted = some id then .error (.sampleMounted id)
  else do
    let slot ← c.slotOf id
    .ok ⟨.unload slot, .unload, "unload", some id⟩

/-- All slots are looked at. -/
def planScan (c : Changer) : Except Error Plan := do
  c.requireRest
  .ok ⟨.scan, .scanSamples, Event.scanSamples.id, none⟩

/-- A sample goes to the measurement position.  If one is there already, its return comes
first. -/
def planMount (c : Changer) (id : String) : Except Error Plan := do
  c.requireRest
  let slot ← c.slotOf id
  if c.state = .home then .ok ⟨.mount slot, .mount, "mount", some id⟩
  else
    match c.mounted with
    | none => .error .notHoldingSample
    | some held =>
      if held = id then .error (.alreadyMounted held)
      else do
        let heldSlot ← c.slotOf held
        .ok ⟨.unmount heldSlot, .mount, switchTag, some id⟩

/-- The mounted sample goes back into its slot. -/
def planUnmount (c : Changer) : Except Error Plan := do
  c.requireRest
  match c.state, c.mounted with
  | .homeMounted, some held => do
    let slot ← c.slotOf held
    .ok ⟨.unmount slot, .unmount, "unmount", some held⟩
  | _, _ => .error .notHoldingSample

/-- A free program starts, at home and with nothing mounted. -/
def planRun (c : Changer) (name : String) : Except Error Plan :=
  if c.state = .home then
    match Program.named name with
    | .ok program => .ok ⟨program, .runProgram, Event.runProgram.id, none⟩
    | .error fault => .error (.invalidProgram fault)
  else .error (.notAtHome c.state)

/-! ### Going round -/

/-- The next sample other than the mounted one, in at most `tries` steps of the round. -/
def chooseNext (mounted : Option String) : Nat → Magazine → Magazine × Option String
  | 0, m => (m, none)
  | tries + 1, m =>
    match m.next with
    | (after, none) => (after, none)
    | (after, some (_, id)) =>
      if some id = mounted then chooseNext mounted tries after else (after, some id)

/-- The sample whose turn it is goes to the measurement position.  The round goes on even if
the mount is refused. -/
def planNext (c : Changer) : Changer × Except Error Plan :=
  match c.requireRest with
  | .error e => (c, .error e)
  | .ok _ =>
    let (magazine, chosen) := chooseNext c.mounted c.magazine.size c.magazine
    let c' := { c with magazine := magazine }
    match chosen with
    | none => (c', .error .magazineEmpty)
    | some id => (c', c'.planMount id)

/-! ### All commands -/

/-- The plan of a command, if it moves the arm. -/
def plan (c : Changer) : Command → Changer × Except Error (Option Plan)
  | .load => (c, c.planLoad.map some)
  | .unload id => (c, (c.planUnload id).map some)
  | .scan => (c, c.planScan.map some)
  | .mount id => (c, (c.planMount id).map some)
  | .unmount => (c, c.planUnmount.map some)
  | .next => ((c.planNext).1, (c.planNext).2.map some)
  | .runProgram name => (c, (c.planRun name).map some)
  | .getState | .stop | .pause | .play | .reset => (c, .ok none)

end Changer

end Autosampler

import Autosampler.Bus
import Autosampler.Changer.Plan

/-!
# Bookkeeping

When the robot acknowledges a program, the magazine and the measurement position are brought up
to date; when camera or presence sensor report on a slot, the magazine follows.

* `Changer.finishLoad`, `Changer.finishUnload`, `Changer.finishMount`, `Changer.finishUnmount` —
  what an acknowledged program leaves behind;
* `Changer.dropPending` — a program that failed or that moved no sample is over;
* `Changer.noteSample`, `Changer.notePresence` — reports on a slot.  The slot of the mounted
  sample is really empty but stays reserved, so reports on it are ignored;
* `Changer.handlers`, `Changer.slotListener`, `Changer.subscribe` — all of it on a bus.
-/

namespace Autosampler.Changer

/-! ### Acknowledged programs -/

/-- No program is waiting for its acknowledgement any more. -/
def dropPending (c : Changer) : Changer := { c with pending := none }

/-- Store a new magazine, if the change to it was possible. -/
def adopt (c : Changer) : Except MagazineError Magazine → Changer × Ending
  | .ok magazine => ({ c with magazine := magazine }, .done)
  | .error _ => (c, .failed)

/-- A loaded sample is in its slot, not yet identified. -/
def finishLoad (c : Changer) : Changer × Ending :=
  match c.pending with
  | some (.load slot) => c.dropPending.adopt (c.magazine.insert slot (placeholder slot))
  | _ => (c.dropPending, .failed)

/-- An unloaded sample has left its slot. -/
def finishUnload (c : Changer) : Changer × Ending :=
  match c.pending with
  | some (.unload slot) =>
    match c.magazine.sampleAt slot with
    | .ok (some id) => c.dropPending.adopt ((c.magazine.remove id).map Prod.fst)
    | _ => (c.dropPending, .failed)
  | _ => (c.dropPending, .failed)

/-- The sample of the mount in progress is at the measurement position. -/
def finishMount (c : Changer) : Changer × Ending :=
  match c.machine.mountTarget with
  | some id => ({ c.dropPending with mounted := some id }, .done)
  | none => (c.dropPending, .failed)

/-- The measurement position is empty. -/
def finishUnmount (c : Changer) : Changer × Ending :=
  ({ c.dropPending with mounted := none }, .done)

/-! ### Reports on a slot -/

/-- The slot holds the sample that is mounted. -/
def reserved (c : Changer) (slot : Nat) : Bool :=
  match c.mounted, c.magazine.sampleAt slot with
  | some id, .ok (some held) => id = held
  | _, _ => false

/-- An identifier was read at a slot. -/
def noteSample (c : Changer) (slot : Nat) (id : String) : Changer × Ending :=
  if c.reserved slot then (c, .done) else c.adopt (c.magazine.update slot id)

/-- The presence sensor reported on a slot. -/
def notePresence (c : Changer) (slot : Nat) (present : Bool) : Changer × Ending :=
  if c.reserved slot then (c, .done)
  else c.adopt ((c.magazine.setPresence slot present).map Prod.fst)

/-! ### On the bus -/

/-- The tags of the programs that can be pending. -/
def programTags : List String :=
  ["load", "unload", "mount", "unmount", switchTag, Event.scanSamples.id, Event.runProgram.id]

/-- What a good acknowledgement does, tag by tag. -/
def handlers : List (Handler Changer) :=
  let onOk (tag : String) (effect : Changer → Changer × Ending) : Handler Changer :=
    ⟨.ok, tag, fun c _ => effect c⟩
  [onOk "load" finishLoad, onOk "unload" finishUnload, onOk "mount" finishMount,
   onOk "unmount" finishUnmount, onOk switchTag finishUnmount,
   onOk Event.scanSamples.id fun c => (c.dropPending, .done),
   onOk Event.runProgram.id fun c => (c.dropPending, .done)]

/-- A bad acknowledgement ends every program without a trace in the magazine. -/
def errorHandlers : List (Handler Changer) :=
  programTags.map fun tag => ⟨.error, tag, fun c _ => (c.dropPending, .done)⟩

/-- The magazine follows what is found at its slots. -/
def slotListener : SlotListener Changer :=
  { identified := noteSample, presence := notePresence }

/-- Put the bookkeeping on a bus. -/
def subscribe (bus : Bus Changer) : Bus Changer :=
  ((bus.register (handlers ++ errorHandlers)).subscribe slotListener).1

end Autosampler.Changer

import Autosampler.Changer.Bookkeeping
import Autosampler.Robot.Message

/-!
# Receiving messages of the robot

Messages are handled one after the other.  Reports on slots move a scan forward; an
acknowledgement goes to the handlers of the running program's tag and then ends the program.

* `Receiver` — the bus, and a way to look through a camera whose own state is a `κ`;
* `Receiver.onSlot`, `Receiver.onCode`, `Receiver.onOk`, `Receiver.onError` — the messages;
* `Receiver.handle` — any message, with the reply it gets.

A step of a scan is fired with the tag of the running program, so that its acknowledgement still
finds the right handlers.
-/

namespace Autosampler

/-- What is needed to handle the robot's messages. -/
structure Receiver (κ : Type) where
  bus : Bus Changer
  /-- Look for a sample label now. -/
  look : κ → κ × Option String

/-- The changer together with its camera. -/
structure Cell (κ : Type) where
  changer : Changer
  camera : κ

namespace Changer

/-- Fire a step of a scan.  A refused step changes nothing. -/
def advance (c : Changer) (event : Event) : Changer := (c.fire event ⟨c.machine.tag, none⟩).1

/-- The step after slot number `slot`, counted from one: `last` after the last slot. -/
def stepAfter (c : Changer) (slot : Nat) (last : Event) : Event :=
  if slot = c.magazine.size then last else .nextSlot

/-- The tag under which an acknowledgement is looked up. -/
def tagOrEmpty (c : Changer) : String := c.machine.tag.getD ""

end Changer

namespace Receiver

variable {κ : Type}

/-- The robot reported whether slot number `slot` holds a sample. -/
def onSlot (r : Receiver κ) (c : Changer) (slot : Nat) (present : Bool) : Changer :=
  if c.magazine.size < slot then c
  else
    (r.bus.presence c (slot - 1) present).advance
      (c.stepAfter slot .finishedPresenceDetection)

/-- Look at the slot in front of the camera and go on with the scan. -/
def scanSlot (r : Receiver κ) (cell : Cell κ) (slot : Nat) : Cell κ :=
  let reached := cell.changer.advance .atScanPos
  let (camera, label) := r.look cell.camera
  let noted :=
    match label with
    | some id => r.bus.identified reached (slot - 1) id
    | none => reached
  ⟨noted.advance (noted.stepAfter slot .finishedScanning), camera⟩

/-- The robot is in front of slot number `slot`.  At the measurement position the label is only
looked at. -/
def onCode (r : Receiver κ) (cell : Cell κ) (slot : Nat) : Cell κ :=
  if cell.changer.magazine.size < slot then cell
  else
    match cell.changer.state with
    | .movingToScanPos | .movingToScanPosMounted => r.scanSlot cell slot
    | .mounting => { cell with camera := (r.look cell.camera).1 }
    | _ => cell

/-- The robot finished the running program: first the books, then the machine. -/
def onOk (r : Receiver κ) (c : Changer) : Changer :=
  ((r.bus.dispatch c .ok c.tagOrEmpty none).1.fire .programFinished {}).1

/-- The robot failed.  The machine stays where it is until an operator resets it. -/
def onError (r : Receiver κ) (c : Changer) (text : Option String) : Changer :=
  (r.bus.dispatch c .error c.tagOrEmpty (some (text.getD ""))).1

/-- Handle a message.  Only a status probe is replied to. -/
def handle (r : Receiver κ) (cell : Cell κ) : Message → Cell κ × Option String
  | .slot slot present => ({ cell with changer := r.onSlot cell.changer slot present }, none)
  | .qr slot => (r.onCode cell slot, none)
  | .get key => (cell, some (Message.probeReply key))
  | .ok => ({ cell with changer := r.onOk cell.changer }, none)
  | .error text => ({ cell with changer := r.onError cell.changer text }, none)

end Receiver

end Autosampler

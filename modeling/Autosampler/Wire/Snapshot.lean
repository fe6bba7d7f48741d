import Autosampler.Magazine
import Autosampler.Snapshot
import Autosampler.Wire.Robot

/-!
# Snapshots on the wire

* `Snapshot.toJson`, `Snapshot.read` — the changer at one moment; what is absent is left out;
* `Magazine.toJson`, `Magazine.read` — the slots of a magazine, always at the start of a round.
-/

namespace Autosampler

open Json (Member Reader Record Value required)

/-! ### Snapshots -/

/-- A snapshot as far as its members are known. -/
structure Snapshot.Draft where
  state : Option State := none
  label : Option String := none
  status : Option Status := none
  statusCode : Option Nat := none
  tag : Option (Option String) := none
  mountedSample : Option (Option String) := none
  samples : Option (List String) := none
  transitionCount : Option Nat := none
  driver : Option (Option RobotStatus) := none

/-- The members of a snapshot. -/
def Snapshot.record : Record Snapshot.Draft Snapshot :=
  { name := "ChangerSnapshot"
    blank := {}
    members :=
      [Member.kept "state" State.read (·.state) fun d a => { d with state := some a },
       Member.kept "label" Json.readString (·.label) fun d a => { d with label := some a },
       Member.kept "status" Status.read (·.status) fun d a => { d with status := some a },
       Member.kept "status_code" (Json.readUnsigned (Nat.pow 2 16) "u16") (·.statusCode) fun d a =>
         { d with statusCode := some a },
       (Member.kept "tag" (Json.readOptional Json.readString) (·.tag) fun d a =>
         { d with tag := some a }).dispensable,
       (Member.kept "mounted_sample" (Json.readOptional Json.readString) (·.mountedSample)
         fun d a => { d with mountedSample := some a }).dispensable,
       Member.kept "samples" (Json.readList Json.readString) (·.samples) fun d a =>
         { d with samples := some a },
       Member.kept "transition_count" (Json.readUnsigned (Nat.pow 2 64) "u64") (·.transitionCount)
         fun d a => { d with transitionCount := some a },
       (Member.kept "driver" (Json.readOptional RobotStatus.read) (·.driver) fun d a =>
         { d with driver := some a }).dispensable]
    finish := fun d => do
      let state ← required "state" d.state
      let label ← required "label" d.label
      let status ← required "status" d.status
      let statusCode ← required "status_code" d.statusCode
      let samples ← required "samples" d.samples
      let transitionCount ← required "transition_count" d.transitionCount
      .ok
        { state, label, status, statusCode := UInt16.ofNat statusCode, tag := d.tag.getD none,
          mountedSample := d.mountedSample.getD none, samples,
          transitionCount := UInt64.ofNat transitionCount, driver := d.driver.getD none } }

/-- Read a snapshot. -/
def Snapshot.read : Reader Snapshot := Snapshot.record.read

/-- Write a snapshot. -/
def Snapshot.toJson (s : Snapshot) : Value :=
  .present
    [("state", some s.state.toJson), ("label", some (.text s.label)),
     ("status", some s.status.toJson), ("status_code", some (.natural s.statusCode.toNat)),
     ("tag", s.tag.map .text), ("mounted_sample", s.mountedSample.map .text),
     ("samples", some (.list (s.samples.map .text))),
     ("transition_count", some (.natural s.transitionCount.toNat)),
     ("driver", s.driver.map RobotStatus.toJson)]

/-! ### Magazines -/

/-- The members of a magazine. -/
def Magazine.record : Record (Option (List String)) Magazine :=
  { name := "Magazine"
    blank := none
    members := [Member.kept "slots" (Json.readList Json.readString) id fun _ slots => some slots]
    finish := fun slots => (required "slots" slots).map fun slots => ⟨slots, 0⟩ }

/-- Read a magazine. -/
def Magazine.read : Reader Magazine := Magazine.record.read

/-- Write a magazine. -/
def Magazine.toJson (m : Magazine) : Value := .object [("slots", .list (m.slots.map .text))]

end Autosampler

/-!
# States of the changer

The changer is in one of nineteen states.  Most come in pairs along the *mounted* axis: the
second of a pair says that the measurement position holds a sample, the first that it is empty.
Five states stand alone: the four in which the gripper carries a sample, and the one in which a
free program runs.

* `State` — the states, `State.all` in the order in which they are listed to operators;
* `State.id`, `State.label`, `State.ofId?` — name on the wire, description, and the way back;
* `State.mounted`, `State.counterpart` — side of the mounted axis, and the state opposite;
* `State.atRest`, `State.inTransit` — home position, and sample in the gripper;
* `Status`, `Status.of`, `Status.code` — the coarse status shown to operators.
-/

namespace Autosampler

/-! ### States -/

/-- What the changer is doing. -/
inductive State where
  | home
  | homeMounted
  | loading
  | loadingMounted
  | unloading
  | unloadingMounted
  | movingToScanPos
  | movingToScanPosMounted
  | scanningSample
  | scanningSampleMounted
  | presenceDetection
  | presenceDetectionMounted
  | movingToHomePos
  | movingToHomePosMounted
  | mounting
  | unmounting
  | unmountingSwitch
  | homeSwitch
  | runningProgram
deriving DecidableEq

namespace State

/-- All states. -/
def all : List State :=
  [home, homeMounted, loading, loadingMounted, unloading, unloadingMounted,
   movingToScanPos, movingToScanPosMounted, scanningSample, scanningSampleMounted,
   presenceDetection, presenceDetectionMounted, movingToHomePos, movingToHomePosMounted,
   mounting, unmounting, unmountingSwitch, homeSwitch, runningProgram]

/-- The name of a state on the wire. -/
def id : State → String
  | home => "home"
  | homeMounted => "home_mounted"
  | loading => "loading"
  | loadingMounted => "loading_mounted"
  | unloading => "unloading"
  | unloadingMounted => "unloading_mounted"
  | movingToScanPos => "moving_to_scan_pos"
  | movingToScanPosMounted => "moving_to_scan_pos_mounted"
  | scanningSample => "scanning_sample"
  | scanningSampleMounted => "scanning_sample_mounted"
  | presenceDetection => "presence_detection"
  | presenceDetectionMounted => "presence_detection_mounted"
  | movingToHomePos => "moving_to_home_pos"
  | movingToHomePosMounted => "moving_to_home_pos_mounted"
  | mounting => "mounting"
  | unmounting => "unmounting"
  | unmountingSwitch => "unmounting_switch"
  | homeSwitch => "home_switch"
  | runningProgram => "running_program"

/-- The description of a state for people. -/
def label : State → String
  | home => "home"
  | homeMounted => "home with sample mounted"
  | loading => "loading sample"
  | loadingMounted => "loading sample (sample mounted)"
  | unloading => "unloading sample"
  | unloadingMounted => "unloading sample (sample mounted)"
  | movingToScanPos => "moving to scan position"
  | movingToScanPosMounted => "moving to scan position (sample mounted)"
  | scanningSample => "scanning sample"
  | scanningSampleMounted => "scanning sample (sample mounted)"
  | presenceDetection => "detecting sample presence"
  | presenceDetectionMounted => "detecting sample presence (sample mounted)"
  | movingToHomePos => "moving to home position"
  | movingToHomePosMounted => "moving to home position (sample mounted)"
  | mounting => "mounting sample"
  | unmounting => "unmounting sample"
  | unmountingSwitch => "unmounting sample before mounting the next one"
  | homeSwitch => "home after unmounting, next sample pending"
  | runningProgram => "running program"

/-- The state of a name on the wire. -/
def ofId? (s : String) : Option State := all.find? fun state => state.id == s

/-- The complaint about a name that is no state's. -/
def unknownMessage (s : String) : String := "unknown changer state '" ++ s ++ "'"

/-- The measurement position holds a sample. -/
def mounted : State → Bool
  | homeMounted | loadingMounted | unloadingMounted | movingToScanPosMounted
  | scanningSampleMounted | presenceDetectionMounted | movingToHomePosMounted => true
  | _ => false

/-- The state opposite on the mounted axis, for the states that lie on it. -/
def counterpart : State → Option State
  | home => some homeMounted
  | homeMounted => some home
  | loading => some loadingMounted
  | loadingMounted => some loading
  | unloading => some unloadingMounted
  | unloadingMounted => some unloading
  | movingToScanPos => some movingToScanPosMounted
  | movingToScanPosMounted => some movingToScanPos
  | scanningSample => some scanningSampleMounted
  | scanningSampleMounted => some scanningSample
  | presenceDetection => some presenceDetectionMounted
  | presenceDetectionMounted => some presenceDetection
  | movingToHomePos => some movingToHomePosMounted
  | movingToHomePosMounted => some movingToHomePos
  | mounting | unmounting | unmountingSwitch | homeSwitch | runningProgram => none

/-- Home position, with or without a mounted sample. -/
def atRest : State → Bool
  | home | homeMounted => true
  | _ => false

theorem eq_of_atRest {state : State} (h : state.atRest = true) :
    state = home ∨ state = homeMounted := by
  cases state <;> simp_all [atRest]

/-- The gripper carries a sample between the magazine and the measurement position. -/
def inTransit : State → Bool
  | mounting | unmounting | unmountingSwitch | homeSwitch => true
  | _ => false

end State

/-! ### Status -/

/-- The coarse status shown to operators. -/
inductive Status where
  | idle
  | holdingSample
  | busy
  | mounting
  | unmounting
  | loading
  | unloading
  | scanning
deriving DecidableEq

namespace Status

/-- All statuses. -/
def all : List Status :=
  [idle, holdingSample, busy, mounting, unmounting, loading, unloading, scanning]

/-- The name of a status on the wire. -/
def id : Status → String
  | idle => "idle"
  | holdingSample => "holding_sample"
  | busy => "busy"
  | mounting => "mounting"
  | unmounting => "unmounting"
  | loading => "loading"
  | unloading => "unloading"
  | scanning => "scanning"

/-- The status of a state. -/
def of : State → Status
  | .home => idle
  | .homeMounted => holdingSample
  | .loading | .loadingMounted => loading
  | .unloading | .unloadingMounted => unloading
  | .movingToScanPos | .movingToScanPosMounted | .scanningSample | .scanningSampleMounted
  | .presenceDetection | .presenceDetectionMounted | .movingToHomePos
  | .movingToHomePosMounted => scanning
  | .mounting => mounting
  | .unmounting | .unmountingSwitch => unmounting
  | .homeSwitch | .runningProgram => busy

/-- The number of a status: from 100 on idle, from 300 on busy. -/
def code : Status → UInt16
  | idle => 100
  | holdingSample => 101
  | busy => 300
  | mounting => 301
  | unmounting => 302
  | loading => 303
  | unloading => 304
  | scanning => 306

/-- A status of the busy class. -/
def isBusy (s : Status) : Bool := 300 ≤ s.code

end Status

end Autosampler

import Autosampler.State

/-!
# Events of the changer

An event moves the changer from one state to another.  Each event has a list of transitions; the
first one that starts in the current state is taken, and an event without such a transition is
refused.

* `Event`, `Event.all`, `Event.id` — the events and their names on the wire;
* `Event.transitions` — pairs of source and destination, in order of priority;
* `Event.target?` — the destination from a given state.
-/

namespace Autosampler

/-- What can happen to the changer. -/
inductive Event where
  /-- A sample goes to the measurement position, or a switch of samples starts. -/
  | mount
  /-- The mounted sample goes back to its slot. -/
  | unmount
  /-- A sample enters the magazine. -/
  | load
  /-- A sample leaves the magazine. -/
  | unload
  /-- The camera and presence run over all slots starts. -/
  | scanSamples
  /-- The camera is in front of a slot. -/
  | atScanPos
  /-- The run goes on to the next slot. -/
  | nextSlot
  /-- The last slot was looked at. -/
  | finishedScanning
  /-- The last presence flag was reported. -/
  | finishedPresenceDetection
  /-- The robot acknowledged the running program. -/
  | programFinished
  /-- A free program starts. -/
  | runProgram
deriving DecidableEq

namespace Event

/-- All events. -/
def all : List Event :=
  [mount, unmount, load, unload, scanSamples, atScanPos, nextSlot, finishedScanning,
   finishedPresenceDetection, programFinished, runProgram]

/-- The name of an event on the wire. -/
def id : Event → String
  | mount => "mount"
  | unmount => "unmount"
  | load => "load"
  | unload => "unload"
  | scanSamples => "scan_samples"
  | atScanPos => "at_scan_pos"
  | nextSlot => "next_slot"
  | finishedScanning => "finished_scanning"
  | finishedPresenceDetection => "finished_presence_detection"
  | programFinished => "program_finished"
  | runProgram => "run_program"

/-- The event of a name on the wire. -/
def ofId? (s : String) : Option Event := all.find? fun event => event.id == s

/-- The transitions of an event: where it is allowed, and where it leads. -/
def transitions : Event → List (State × State)
  | mount =>
      [(.home, .mounting), (.homeMounted, .unmountingSwitch), (.homeSwitch, .mounting)]
  | unmount => [(.homeMounted, .unmounting)]
  | load => [(.home, .loading), (.homeMounted, .loadingMounted)]
  | unload => [(.home, .unloading), (.homeMounted, .unloadingMounted)]
  | scanSamples => [(.home, .movingToScanPos), (.homeMounted, .movingToScanPosMounted)]
  | atScanPos =>
      [(.movingToScanPos, .scanningSample), (.movingToScanPosMounted, .scanningSampleMounted)]
  | nextSlot =>
      [(.scanningSample, .movingToScanPos), (.scanningSampleMounted, .movingToScanPosMounted),
       (.presenceDetection, .presenceDetection),
       (.presenceDetectionMounted, .presenceDetectionMounted)]
  | finishedScanning =>
      [(.scanningSample, .presenceDetection),
       (.scanningSampleMounted, .presenceDetectionMounted)]
  | finishedPresenceDetection =>
      [(.presenceDetection, .movingToHomePos),
       (.presenceDetectionMounted, .movingToHomePosMounted)]
  | programFinished =>
      [(.mounting, .homeMounted), (.unmounting, .home), (.unmountingSwitch, .homeSwitch),
       (.loading, .home), (.loadingMounted, .homeMounted), (.unloading, .home),
       (.unloadingMounted, .homeMounted), (.movingToHomePos, .home),
       (.movingToHomePosMounted, .homeMounted), (.runningProgram, .home)]
  | runProgram => [(.home, .runningProgram)]

/-- The destination of an event fired in `state`, if it is allowed there. -/
def target? (event : Event) (state : State) : Option State :=
  (event.transitions.find? fun move => move.1 == state).map Prod.snd

end Event

end Autosampler

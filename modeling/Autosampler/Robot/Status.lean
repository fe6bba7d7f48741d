import Autosampler.Text.Ascii
import Autosampler.Text.Blank

/-!
# Status of the robot

The controller of the robot reports its operating mode, its safety status, whether it takes
commands from outside, and what program it has loaded or runs.

* `Mode`, `Mode.code`, `Mode.powered` — operating modes;
* `Safety`, `Safety.locked` — safety statuses, and those in which nothing may start;
* `RobotStatus`, `RobotStatus.blocker` — a report, and why no program can be started.
-/

namespace Autosampler

/-- The value whose name is `s` up to blanks at the ends and the case of ASCII letters. -/
def findByName {α : Type} (names : α → String) (values : List α) (s : String) : Option α :=
  values.find? fun v => Text.sameLetters (names v).toList (Text.trim s.toList)

/-! ### Operating modes -/

/-- The operating mode of the robot. -/
inductive Mode where
  | noController
  | disconnected
  | confirmSafety
  | booting
  | powerOff
  | powerOn
  | idle
  | backdrive
  | running
deriving DecidableEq

namespace Mode

/-- All modes. -/
def all : List Mode :=
  [noController, disconnected, confirmSafety, booting, powerOff, powerOn, idle, backdrive,
   running]

/-- The name of a mode. -/
def name : Mode → String
  | noController => "NO_CONTROLLER"
  | disconnected => "DISCONNECTED"
  | confirmSafety => "CONFIRM_SAFETY"
  | booting => "BOOTING"
  | powerOff => "POWER_OFF"
  | powerOn => "POWER_ON"
  | idle => "IDLE"
  | backdrive => "BACKDRIVE"
  | running => "RUNNING"

/-- The number of a mode: 0 disabled, 100 idle, 130 standby, 340 preparing, 400 error. -/
def code : Mode → Nat
  | noController => 400
  | disconnected | confirmSafety | powerOff => 0
  | booting | backdrive => 340
  | powerOn => 130
  | idle | running => 100

/-- The arm has power. -/
def powered : Mode → Bool
  | powerOn | idle | backdrive | running => true
  | _ => false

/-- The mode of a name, whatever its case. -/
def ofName? (s : String) : Option Mode := findByName name all s

/-- The complaint about a name that is no mode's. -/
def unknownMessage (s : String) : String := "unknown robot mode '" ++ Text.trimmed s ++ "'"

end Mode

/-! ### Safety -/

/-- The safety status of the robot, from harmless to grave. -/
inductive Safety where
  | normal
  | reduced
  | protectiveStop
  | recovery
  | safeguardStop
  | systemEmergencyStop
  | robotEmergencyStop
  | violation
  | fault
  | automaticModeSafeguardStop
  | systemThreePositionEnablingStop
deriving DecidableEq

namespace Safety

/-- All safety statuses. -/
def all : List Safety :=
  [normal, reduced, protectiveStop, recovery, safeguardStop, systemEmergencyStop,
   robotEmergencyStop, violation, fault, automaticModeSafeguardStop,
   systemThreePositionEnablingStop]

/-- The name of a safety status. -/
def name : Safety → String
  | normal => "NORMAL"
  | reduced => "REDUCED"
  | protectiveStop => "PROTECTIVE_STOP"
  | recovery => "RECOVERY"
  | safeguardStop => "SAFEGUARD_STOP"
  | systemEmergencyStop => "SYSTEM_EMERGENCY_STOP"
  | robotEmergencyStop => "ROBOT_EMERGENCY_STOP"
  | violation => "VIOLATION"
  | fault => "FAULT"
  | automaticModeSafeguardStop => "AUTOMATIC_MODE_SAFEGUARD_STOP"
  | systemThreePositionEnablingStop => "SYSTEM_THREE_POSITION_ENABLING_STOP"

/-- Any stop, fault or violation: no program may start. -/
def locked : Safety → Bool
  | normal | reduced => false
  | _ => true

/-- The safety status of a name, whatever its case. -/
def ofName? (s : String) : Option Safety := findByName name all s

/-- The complaint about a name that is no safety status. -/
def unknownMessage (s : String) : String := "unknown safety status '" ++ Text.trimmed s ++ "'"

end Safety

/-! ### Reports -/

/-- What the controller reports. -/
structure RobotStatus where
  mode : Mode
  safety : Safety
  /-- Commands from outside are taken. -/
  remoteControl : Bool
  /-- A program runs. -/
  programRunning : Bool
  /-- The program that is loaded. -/
  loadedProgram : Option String
deriving DecidableEq

/-- Why the robot cannot start a program now, if there is a reason: local control first, then
safety, then a running program, then the mode. -/
def RobotStatus.blocker (s : RobotStatus) : Option String :=
  if !s.remoteControl then some "robot is in local control mode"
  else if s.safety.locked then some ("robot safety status is " ++ s.safety.name)
  else if s.programRunning then some "robot is already executing another program"
  else if 400 ≤ s.mode.code then some ("robot is in mode " ++ s.mode.name)
  else none

end Autosampler

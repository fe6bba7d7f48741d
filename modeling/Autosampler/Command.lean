import Autosampler.Text.Quoted

/-!
# Commands

What an operator can ask of the changer.

* `Command`, `Command.describe`.
-/

namespace Autosampler

/-- A command of an operator. -/
inductive Command where
  | getState
  /-- A new sample goes into the first free slot. -/
  | load
  | unload (sample : String)
  | scan
  /-- Mount a sample; the mounted one goes back first. -/
  | mount (sample : String)
  | unmount
  /-- Mount the next sample, going round. -/
  | next
  | runProgram (name : String)
  | stop
  | pause
  | play
  | reset
deriving DecidableEq

/-- A command in reports. -/
def Command.describe : Command → String
  | getState => "GetSnapshot"
  | load => "Load"
  | unload sample => "Unload \x7b sample_id: " ++ Text.quoted sample ++ " \x7d"
  | scan => "Scan"
  | mount sample => "Mount \x7b sample_id: " ++ Text.quoted sample ++ " \x7d"
  | unmount => "Unmount"
  | next => "Next"
  | runProgram name => "RunProgram \x7b name: " ++ Text.quoted name ++ " \x7d"
  | stop => "Stop"
  | pause => "Pause"
  | play => "Play"
  | reset => "Reset"

end Autosampler

import Autosampler.Startup
import Autosampler.Text.Quoted

/-!
# The program

The command line and the settings are read, and the start is announced.

* `contentOf`, `settingsDirectory` — what is seen of the files around;
* `run`, `main` — a call of the program.
-/

namespace Autosampler

/-- What is seen of a file. -/
def contentOf (path : String) : IO Content := do
  try
    return .text (← IO.FS.readFile path)
  catch
    | .noFileOrDirectory .. => return .absent
    | e => return .unreadable (toString e)

/-- The user's directory of settings. -/
def settingsDirectory : IO (Option String) := do
  match ← IO.getEnv "XDG_CONFIG_HOME" with
  | some dir => if dir.toList.head? = some '/' then return some dir
  | none => pure ()
  return (← IO.getEnv "HOME").map fun home => home ++ "/.config"

/-- Follow the command line; the exit code is 2 if it cannot be understood, and 1 if there is
nothing to start. -/
def run (words : List String) : IO UInt32 := do
  let directory ← settingsDirectory
  let contents ← (settingsPaths directory words).mapM fun path => do
    return (path, ← contentOf path)
  match launch (Files.ofList contents) directory words with
  | .ok (.print text) =>
    IO.print text
    return 0
  | .ok (.start plan _ path) =>
    match path with
    | some p => IO.println ("Loaded configuration from " ++ p)
    | none => pure ()
    IO.println ("Starting changer-server " ++ plan.banner)
    return 0
  | .error .usage =>
    IO.eprintln ("error: " ++ Complaint.usage.message ++ "\n\n" ++ helpText)
    return 2
  | .error complaint =>
    IO.eprintln ("Error: " ++ Text.quoted complaint.message)
    return 1

end Autosampler

/-- The program. -/
def main (words : List String) : IO UInt32 := Autosampler.run words

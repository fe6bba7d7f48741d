import Autosampler.CommandLine
import Autosampler.Config.Check
import Autosampler.Config.Printer
import Autosampler.Config.Search
import Autosampler.Robot.Registry

/-!
# Starting the changer

The command line is merged with the settings: what it says goes before what they say.

* `Startup`, `Startup.banner` — all that is needed to start;
* `StartFault`, `StartFault.message` — why there is nothing to start;
* `resolve` — the merge of command line and settings;
* `versionText`, `helpText` — the answers to questions about the program;
* `settingsPaths` — the files that a call looks at;
* `Launch`, `Complaint`, `launch` — what a call of the program comes to.
-/

namespace Autosampler

/-- All that is needed to start. -/
structure Startup where
  /-- The plain name of a registered backend. -/
  backend : String
  settings : Settings
  /-- The number of slots of the magazine. -/
  slots : Nat
deriving DecidableEq

/-- What is started, in brackets. -/
def Startup.banner (s : Startup) : String :=
  let robot :=
    match s.settings.access with
    | .tcp addr => ", robot: " ++ addr
    | .none => ""
  "(backend: " ++ s.backend ++ robot ++ ", " ++ Text.decimal s.slots ++ " slots)"

/-- Why there is nothing to start. -/
inductive StartFault where
  | unknownBackend (name : String) (known : List String)
  | robotAddress (addr : String)
  | noSlots
deriving DecidableEq

/-- The wording of a reason not to start. -/
def StartFault.message : StartFault → String
  | unknownBackend name known =>
    "Unknown robot backend: " ++ name ++ " (available: " ++ ", ".intercalate known ++ ")"
  | robotAddress addr => "Robot address must be '<host>:<port>', got '" ++ addr ++ "'"
  | noSlots => "Magazine needs at least one slot"

/-- The longest wait before another attempt to reach the robot. -/
def retryCap : Span := Span.ofMillis 5000

/-- How the robot is reached: not at all by the dummy backend, else at the address of the command
line or of the settings. -/
def resolveAccess (line : CommandLine) (config : Config) (backend : String) :
    Except StartFault Access :=
  if backend = "dummy" then .ok .none
  else
    let addr := line.robotAddress.getD config.robot.address
    if addr.toList.contains ':' then .ok (.tcp addr) else .error (.robotAddress addr)

/-- Merge the command line with the settings. -/
def resolve (line : CommandLine) (config : Config) (registry : Registry) :
    Except StartFault Startup :=
  let backend := Text.plainName (line.backend.getD config.robot.backend)
  if !registry.contains backend then .error (.unknownBackend backend registry.names)
  else
    match resolveAccess line config backend with
    | .error fault => .error fault
    | .ok access =>
      let slots := line.slots.getD config.slots
      if slots = 0 then .error .noSlots
      else
        let retry : Backoff :=
          ⟨max 1 config.robot.attempts, Span.ofMillis config.robot.retryDelay, retryCap⟩
        .ok ⟨backend, ⟨access, Span.ofMillis config.robot.timeout, retry⟩, slots⟩

/-! ### Calls of the program -/

/-- The name and the number of the program. -/
def versionText : String := "changer-server 0.1.0\n"

/-- The lines that explain the options. -/
def helpLines : List String :=
  ["changer-server - sample changer daemon",
   "",
   "Usage: changer-server [OPTIONS] [ROBOT_ADDR]",
   "",
   "Arguments:",
   "  [ROBOT_ADDR]  Robot dashboard address: <host>:<port>",
   "",
   "Options:",
   "  -C, --config <FILE>                Path to configuration file",
   "      --print-config                 Print example configuration and exit",
   "  -b, --backend <BACKEND>            Robot backend to use (e.g. ur, dummy)",
   "  -n, --nsamples <NSAMPLES>          Number of magazine slots",
   "  -l, --listen <LISTEN>              IP address for the robot event listener",
   "  -p, --port <PORT>                  Port for the robot event listener",
   "      --control-port <CONTROL_PORT>  Port for the operator JSON listener",
   "  -h, --help                         Print help",
   "  -V, --version                      Print version"]

/-- The explanation of the options. -/
def helpText : String := String.join (helpLines.map fun line => line ++ "\n")

/-- What a call of the program comes to. -/
inductive Launch where
  /-- Write a text, and that is all. -/
  | print (text : String)
  /-- Start, with the settings and the file that they come from. -/
  | start (plan : Startup) (config : Config) (path : Option String)

/-- Why a call of the program fails. -/
inductive Complaint where
  | usage
  | load (fault : LoadFault)
  | invalid (fault : ConfigFault)
  | unresolved (fault : StartFault)
deriving DecidableEq

/-- The wording of a complaint. -/
def Complaint.message : Complaint → String
  | usage => "invalid arguments"
  | load fault => fault.message
  | invalid fault => "Invalid server configuration: " ++ fault.message
  | unresolved fault => fault.message

/-- The files that the settings may come from. -/
def settingsPaths (directory : Option String) (words : List String) : List String :=
  match CommandLine.parse words with
  | .error _ => []
  | .ok line =>
    match line.configPath with
    | some path => [path]
    | none => Config.usualPaths directory

/-- Load and check the settings, and merge them with the command line. -/
def CommandLine.start (line : CommandLine) (files : Files) (directory : Option String) :
    Except Complaint Launch :=
  match Config.load files directory line.configPath with
  | .error fault => .error (.load fault)
  | .ok (config, path) =>
    match config.check with
    | .error fault => .error (.invalid fault)
    | .ok () =>
      match resolve line config Registry.builtin with
      | .error fault => .error (.unresolved fault)
      | .ok plan => .ok (.start plan config path)

/-- What the words of a command line come to, given the files and the user's directory of
settings. -/
def launch (files : Files) (directory : Option String) (words : List String) :
    Except Complaint Launch :=
  match CommandLine.parse words with
  | .error .usage => .error .usage
  | .error .help => .ok (.print helpText)
  | .error .version => .ok (.print versionText)
  | .ok line =>
    if line.printConfig then .ok (.print (Config.example.toText ++ "\n"))
    else line.start files directory

end Autosampler

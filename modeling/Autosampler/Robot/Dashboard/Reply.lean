import Autosampler.Robot.Status

/-!
# Replies of the dashboard

The dashboard of the robot's controller answers every command with one line.

* `Reply.mode`, `Reply.safety`, `Reply.flag`, `Reply.loadedProgram` — the parts of a status;
* `Reply.judgeLoad` — whether a program was loaded;
* `Reply.expect` — whether a command was carried out.
-/

namespace Autosampler.Reply

/-- What follows `head` in a text, if the text starts with it. -/
def after? (head s : String) : Option String :=
  if head.toList.isPrefixOf s.toList then some (String.ofList (s.toList.drop head.length)) else none

/-- A text starts with `head`. -/
def startsWith (head s : String) : Bool := (after? head s).isSome

/-- The complaint about a reply that makes no sense. -/
def unexpected (reply : String) : String := "unexpected dashboard reply '" ++ reply ++ "'"

/-! ### Parts of the status -/

/-- What follows the first of `heads` that a reply starts with. -/
def valueOf (heads : List String) (reply : String) : Except String String :=
  match heads.findSome? fun head => after? head reply with
  | some value => .ok (Text.trimmed value)
  | none => .error (unexpected reply)

/-- The operating mode. -/
def mode (reply : String) : Except String Mode :=
  match valueOf ["Robotmode:"] reply with
  | .error e => .error e
  | .ok value =>
    match Mode.ofName? value with
    | some m => .ok m
    | none => .error (Mode.unknownMessage value)

/-- The safety status.  Older controllers call it a mode. -/
def safety (reply : String) : Except String Safety :=
  match valueOf ["Safetystatus:", "Safetymode:"] reply with
  | .error e => .error e
  | .ok value =>
    match Safety.ofName? value with
    | some s => .ok s
    | none => .error (Safety.unknownMessage value)

/-- A truth value after `head`. -/
def flag (head reply : String) : Except String Bool :=
  match valueOf [head] reply with
  | .error e => .error e
  | .ok value =>
    if value = "true" then .ok true
    else if value = "false" then .ok false
    else .error (unexpected reply)

/-- The parts of a path: what stands between the slashes, without empty parts and dots. -/
def pathParts : List Char → List Char → List (List Char)
  | part, [] => if part = [] ∨ part = ['.'] then [] else [part]
  | part, c :: cs =>
    if c = '/' then
      if part = [] ∨ part = ['.'] then pathParts [] cs else part :: pathParts [] cs
    else pathParts (part ++ [c]) cs

/-- The file name at the end of a path; a path without one stands for itself. -/
def fileName (path : String) : String :=
  match (pathParts [] path.toList).getLast? with
  | none => path
  | some part => if part = ['.', '.'] then path else String.ofList part

/-- The file name of the loaded program, if one is loaded. -/
def loadedProgram (reply : String) : Except String (Option String) :=
  if startsWith "No program loaded" reply then .ok none
  else
    match after? "Loaded program:" reply with
    | some path => .ok (some (fileName (Text.trimmed path)))
    | none => .error (unexpected reply)

/-! ### Commands -/

/-- Whether `program` was loaded. -/
def judgeLoad (program reply : String) : Except String Unit :=
  if startsWith "Loading program:" reply then .ok ()
  else if startsWith "File not found:" reply then
    .error ("program " ++ program ++ " not found on robot")
  else if startsWith "Error while loading program" reply then
    .error ("robot failed to load " ++ program ++ ": " ++ reply)
  else .error (unexpected reply)

/-- Whether `command` was carried out: then the reply starts with `expected`. -/
def expect (command expected reply : String) : Except String Unit :=
  if startsWith expected reply then .ok ()
  else .error ("dashboard '" ++ command ++ "' failed: " ++ reply)

end Autosampler.Reply

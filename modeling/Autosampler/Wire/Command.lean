import Autosampler.Command
import Autosampler.Json.Reader

/-!
# Commands on the wire

A command is an object whose member `cmd` is its name, beside the sample or the name that it is
about; or a list that starts with the name.  Members that a command does not have are ignored.

* `Command.Form`, `Command.forms` — the commands in order, each with what it is about;
* `Command.Form.ofMembers`, `Command.Form.ofItems` — a command from what stands beside its name;
* `Command.read` — a command straight from the text;
* `Command.toJson`, `Command.members` — the way back.
-/

namespace Autosampler

open Json (Fault Reader Step Value)

/-! ### Forms -/

/-- The form of a command: alone, or about a text under a member name. -/
inductive Command.Form where
  | alone (command : Command)
  | about (title : String) (member : String) (make : String → Command)

namespace Command

/-- The names of the commands, in order, and their forms. -/
def forms : List (String × Form) :=
  [("get_state", .alone getState), ("load", .alone load),
   ("unload", .about "Unload" "sample_id" unload), ("scan", .alone scan),
   ("mount", .about "Mount" "sample_id" mount), ("unmount", .alone unmount),
   ("next", .alone next), ("run_program", .about "RunProgram" "name" runProgram),
   ("stop", .alone stop), ("pause", .alone pause), ("play", .alone play),
   ("reset", .alone reset)]

/-- The member that holds the name of a command. -/
def nameMember : String := "cmd"

/-- The form of a name. -/
def formOf (name : String) : Except Fault Form :=
  match forms.find? fun entry => entry.1 == name with
  | some entry => .ok entry.2
  | none => .error (Json.unknownVariant (forms.map Prod.fst) name)

namespace Form

/-- A text that a command is about. -/
def textOf : Value → Except Fault String
  | .text s => .ok s
  | v => .error (Json.wrongKind v.describe "a string")

/-- The text under a member name, which must be there once. -/
def textAt (member : String) : Option String → List (String × Value) → Except Fault String
  | some s, [] => .ok s
  | none, [] => .error (.unfit ("missing field `" ++ member ++ "`"))
  | found, (name, v) :: rest =>
    if name ≠ member then textAt member found rest
    else if found.isSome then .error (.unfit ("duplicate field `" ++ member ++ "`"))
    else
      match textOf v with
      | .error fault => .error fault
      | .ok s => textAt member (some s) rest

/-- A command from the members beside its name. -/
def ofMembers (members : List (String × Value)) : Form → Except Fault Command
  | alone command => .ok command
  | about _ member make => (textAt member none members).map make

/-- The complaint about `found` items where `expected` stands for what was wanted. -/
def wrongLength (found : Nat) (expected : String) : Fault :=
  .unfit ("invalid length " ++ Text.decimal found ++ ", expected " ++ expected)

/-- A command from the items behind its name. -/
def ofItems (items : List Value) : Form → Except Fault Command
  | alone command =>
    if items.isEmpty then .ok command
    else .error (wrongLength items.length "0 elements in sequence")
  | about title _ make =>
    match items with
    | [] =>
      .error (wrongLength 0 ("struct variant ClientCommand::" ++ title ++ " with 1 element"))
    | v :: rest =>
      match textOf v with
      | .error fault => .error fault
      | .ok s =>
        if rest.isEmpty then .ok (make s)
        else .error (wrongLength items.length "1 element in sequence")

end Form

/-! ### Reading -/

/-- The name of a command, as a value of its own. -/
def readForm (cs : List Char) : Step Form :=
  match Json.readTextOf "variant identifier" cs with
  | .error fault => .error fault
  | .ok (name, rest) => (formOf name).map fun form => (form, rest)

/-- The complaint about a command without a name. -/
def nameless : Fault := .unfit ("missing field `" ++ nameMember ++ "`")

/-- The members of a command, after the opening brace or after a member: the form, once its name
was read, and all others in order. -/
def readMembers (depth : Nat) :
    Nat → Bool → Option Form → List Char → Step (Option Form × List (String × Value))
  | 0, _, _, _ => .error .cut
  | bound + 1, first, form, cs =>
    match Json.nextMember first cs with
    | .error fault => .error fault
    | .ok (false, rest) => .ok ((form, []), rest)
    | .ok (true, rest) =>
      match Json.readText rest with
      | .error fault => .error fault
      | .ok (name, afterName) =>
        if String.ofList name = nameMember then
          if form.isSome then .error (.unfit ("duplicate field `" ++ nameMember ++ "`"))
          else
            match Json.readColon afterName with
            | .error fault => .error fault
            | .ok afterColon =>
              match readForm afterColon with
              | .error fault => .error fault
              | .ok (found, after) => readMembers depth bound false (some found) after
        else
          match Json.readColon afterName with
          | .error fault => .error fault
          | .ok afterColon =>
            match Value.read depth afterColon with
            | .error fault => .error fault
            | .ok (v, after) =>
              match readMembers depth bound false form after with
              | .error fault => .error fault
              | .ok ((found, others), last) =>
                .ok ((found, (String.ofList name, v) :: others), last)

/-- A command written as an object, after the opening brace. -/
def readObject (depth : Nat) (cs : List Char) : Step Command :=
  match readMembers depth (cs.length + 1) true none cs with
  | .error fault => .error fault
  | .ok ((none, _), _) => .error nameless
  | .ok ((some form, others), rest) => (form.ofMembers others).map fun c => (c, rest)

/-- A command written as a list, after the opening bracket. -/
def readSequence (depth : Nat) (cs : List Char) : Step Command :=
  match Json.nextItem true cs with
  | .error fault => .error fault
  | .ok (false, _) => .error nameless
  | .ok (true, rest) =>
    match readForm rest with
    | .error fault => .error fault
    | .ok (form, after) =>
      match Json.readItems (Value.read depth) (after.length + 1) false after with
      | .error fault => .error fault
      | .ok (items, last) => (form.ofItems items).map fun c => (c, last)

/-- A command. -/
def read : Reader Command := fun depth cs =>
  match Json.skipBlank cs with
  | '\x7b' :: rest => if depth ≤ 1 then .error .malformed else readObject (depth - 1) rest
  | '[' :: rest => if depth ≤ 1 then .error .malformed else readSequence (depth - 1) rest
  | other => .error (Json.misfit "internally tagged enum ClientCommand" other)

/-! ### Writing -/

/-- The members of a command, its name first. -/
def members : Command → List (String × Value)
  | getState => [(nameMember, .text "get_state")]
  | load => [(nameMember, .text "load")]
  | unload sample => [(nameMember, .text "unload"), ("sample_id", .text sample)]
  | scan => [(nameMember, .text "scan")]
  | mount sample => [(nameMember, .text "mount"), ("sample_id", .text sample)]
  | unmount => [(nameMember, .text "unmount")]
  | next => [(nameMember, .text "next")]
  | runProgram name => [(nameMember, .text "run_program"), ("name", .text name)]
  | stop => [(nameMember, .text "stop")]
  | pause => [(nameMember, .text "pause")]
  | play => [(nameMember, .text "play")]
  | reset => [(nameMember, .text "reset")]

/-- Write a command. -/
def toJson (c : Command) : Value := .object c.members

end Command

end Autosampler

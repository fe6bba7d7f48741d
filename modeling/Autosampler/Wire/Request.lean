import Autosampler.Wire.Command
import Autosampler.Wire.Snapshot

/-!
# Requests and responses on the wire

An operator sends a command together with a token, as one object.  There the name of the command
may also be its number.  A line that is no such object is read as a command alone, without a
token.

* `Request`, `Request.ofText`, `Request.toJson` — a command with its token;
* `Response`, `Response.read`, `Response.toJson` — what is sent back.
-/

namespace Autosampler

open Json (Fault Member Reader Record Value required)

/-! ### Requests -/

/-- A command with the token that it was sent with. -/
structure Request where
  token : Option String
  command : Command
deriving DecidableEq

namespace Request

/-- The member that holds the token. -/
def tokenMember : String := "token"

/-- The form of a command by its name or its number. -/
def formOf? : Value → Option Command.Form
  | .text name => (Command.formOf name).toOption
  | .number (.natural n) => Command.forms[n]?.map Prod.snd
  | _ => none

/-- The token among the members of a request: at most once, a text or `null`. -/
def tokenOf? (members : List (String × Value)) : Option (Option String) :=
  match members.filter fun m => m.1 = tokenMember with
  | [] => some none
  | [(_, .null)] => some none
  | [(_, .text token)] => some (some token)
  | _ => none

/-- The command among the members of a request. -/
def commandOf? (members : List (String × Value)) : Option Command :=
  match members.filter fun m => m.1 = Command.nameMember with
  | [(_, name)] => (formOf? name).bind fun form => (form.ofMembers members).toOption
  | _ => none

/-- The request of an object. -/
def ofValue? : Value → Option Request
  | .object members => do
    let token ← tokenOf? members
    let command ← commandOf? members
    some ⟨token, command⟩
  | _ => none

/-- The request of a text: with its token, else as a command alone. -/
def ofText (s : String) : Except Fault Request :=
  match (Value.ofText s).toOption.bind ofValue? with
  | some request => .ok request
  | none => (Json.readAll Command.read s).map fun command => ⟨none, command⟩

/-- Write a request. -/
def toJson (r : Request) : Value :=
  .object ((tokenMember, .optional .text r.token) :: r.command.members)

end Request

/-! ### Responses -/

/-- What an operator gets back. -/
structure Response where
  success : Bool
  state : Option Snapshot
  error : Option String
deriving DecidableEq

namespace Response

/-- The request was carried out. -/
def accepted (s : Snapshot) : Response := ⟨true, some s, none⟩

/-- The request was not carried out. -/
def refused (reason : String) : Response := ⟨false, none, some reason⟩

/-- A response as far as its members are known. -/
structure Draft where
  success : Option Bool := none
  state : Option (Option Snapshot) := none
  error : Option (Option String) := none

/-- The members of a response. -/
def record : Record Draft Response :=
  { name := "ClientResponse"
    blank := {}
    members :=
      [Member.kept "success" Json.readBool (·.success) fun d a => { d with success := some a },
       Member.kept "state" (Json.readOptional Snapshot.read) (·.state) fun d a =>
         { d with state := some a },
       Member.kept "error" (Json.readOptional Json.readString) (·.error) fun d a =>
         { d with error := some a }]
    finish := fun d => do
      let success ← required "success" d.success
      .ok ⟨success, d.state.getD none, d.error.getD none⟩ }

/-- Read a response. -/
def read : Reader Response := record.read

/-- Write a response. -/
def toJson (r : Response) : Value :=
  .object
    [("success", .bool r.success), ("state", .optional Snapshot.toJson r.state),
     ("error", .optional .text r.error)]

end Response

end Autosampler

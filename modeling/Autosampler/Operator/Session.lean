import Autosampler.Operator.Token
import Autosampler.Station
import Autosampler.Text.Lines
import Autosampler.Wire.Request

/-!
# Connections of operators

An operator sends one request on a line and gets one response for each line that is not blank.
The state of the changer is answered from the published snapshot and never waits for a running
request.

* `Verdict`, `verdict` — what a line asks for;
* `serveLine` — a line answered by a station;
* `serve` — all lines of a connection, until one of them is no text.
-/

namespace Autosampler.Operator

/-! ### One line -/

/-- What to do about a line. -/
inductive Verdict where
  /-- A blank line is not answered. -/
  | silent
  /-- The response is known at once. -/
  | reply (response : Response)
  /-- The station has to carry out a command. -/
  | request (command : Command)

/-- What a line asks for, given the published snapshot. -/
def verdict (check : Check) (published : Snapshot) (line : String) : Verdict :=
  if Text.allBlank line then .silent
  else
    match Request.ofText (Text.trimmed line) with
    | .error fault => .reply (.refused ("Invalid JSON: " ++ fault.message))
    | .ok r =>
      match check r.token with
      | .error denial => .reply (.refused denial.message)
      | .ok _ =>
        if r.command = .getState then .reply (.accepted published) else .request r.command

/-- The response to a served request. -/
def responseTo : Option (Except Error Snapshot) → Response
  | some (.ok snapshot) => .accepted snapshot
  | some (.error e) => .refused e.message
  | none => .refused "Internal error: changer task not available"

variable {δ : Type}

/-- Answer a line. -/
def serveLine (r : Rig δ) (check : Check) (s : Station δ) (line : String) :
    Station δ × Option Response :=
  match verdict check s.published line with
  | .silent => (s, none)
  | .reply response => (s, some response)
  | .request command =>
    let (s', answer) := r.request s command
    (s', some (responseTo answer))

/-! ### A whole connection -/

/-- Answer the lines of a connection.  A line that is no text ends it, which is the last part of
the answer. -/
def serve (r : Rig δ) (check : Check) (s : Station δ) :
    List (List UInt8) → Station δ × List Response × Bool
  | [] => (s, [], false)
  | bytes :: rest =>
    match Text.decode bytes with
    | none => (s, [], true)
    | some line =>
      let (s₁, response) := serveLine r check s line
      let (s₂, responses, ended) := serve r check s₁ rest
      (s₂, response.toList ++ responses, ended)

end Autosampler.Operator

import Autosampler.Receiver
import Autosampler.Text.Lines

/-!
# Connections of the robot

The robot sends messages line by line.  Lines that are no text, blank or no message are dropped.

* `Receiver.onLine` — one line;
* `Receiver.serve` — all lines of a connection, with the replies to its probes.
-/

namespace Autosampler.Receiver

variable {κ : Type}

/-- The message of a line of bytes, if it is one. -/
def messageOf? (bytes : List UInt8) : Option Message :=
  (Text.decode bytes).bind fun line => (Message.ofLine line).toOption

/-- Handle a line. -/
def onLine (r : Receiver κ) (cell : Cell κ) (bytes : List UInt8) : Cell κ × Option String :=
  match messageOf? bytes with
  | none => (cell, none)
  | some message => r.handle cell message

/-- Handle lines one after the other; the answer has the replies in order. -/
def onLines (r : Receiver κ) (cell : Cell κ) : List (List UInt8) → Cell κ × List String
  | [] => (cell, [])
  | bytes :: rest =>
    let (cell₁, reply) := r.onLine cell bytes
    let (cell₂, replies) := onLines r cell₁ rest
    (cell₂, reply.toList ++ replies)

/-- Handle all that a connection delivers until it ends. -/
def serve (r : Receiver κ) (cell : Cell κ) (bytes : List UInt8) : Cell κ × List String :=
  r.onLines cell (Text.lines bytes)

end Autosampler.Receiver

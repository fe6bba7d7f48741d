import Autosampler.Robot.Dashboard.Reply
import Autosampler.Robot.Driver
import Autosampler.Text.Numeral

/-!
# Talking to the dashboard

The dashboard greets with one line and then answers each command line with one line.  A
connection is opened when it is needed and given up on any failure, so that a late answer can
never be taken for the answer to a later command.

* `Peer`, `Peer.unreachable` — the other side of the line, with a state `π` of its own;
* `Dashboard`, `Link` — the fixed part of a client, and its line to the peer;
* `Dashboard.connect` — attempts to open a line, with waits in between;
* `Dashboard.request` — one command, one reply;
* `Dashboard.status`, `Dashboard.start` — a status, and a program start after a clean status;
* `Dashboard.hardware` — the client as a driver.
-/

namespace Autosampler

/-! ### The other side -/

/-- What comes of an attempt to open a line. -/
inductive Contact where
  | reached
  /-- Nothing happened within the time limit. -/
  | late
  | failed (reason : String)

/-- What comes of waiting for a line of text. -/
inductive Reception where
  | line (text : String)
  /-- The other side has closed the line. -/
  | closed
  /-- Nothing arrived within the time limit. -/
  | late
  | failed (reason : String)

/-- The other side of the line. -/
structure Peer (π : Type) where
  /-- Try to open a line, for as long as the time limit. -/
  contact : π → Span → π × Contact
  /-- Send a line of text. -/
  send : π → String → π × Except String Unit
  /-- Wait for a line of text, for as long as the time limit. -/
  receive : π → Span → π × Reception
  /-- Give the line up. -/
  hangUp : π → π
  /-- Let time pass. -/
  pause : π → Span → π

/-- A peer that cannot be reached, and why. -/
def Peer.unreachable (reason : String) : Peer Unit where
  contact := fun u _ => (u, .failed reason)
  send := fun u _ => (u, .error reason)
  receive := fun u _ => (u, .failed reason)
  hangUp := id
  pause := fun u _ => u

/-! ### The client -/

/-- The port of dashboards. -/
def dashboardPort : Nat := 29999

/-- The fixed part of a client. -/
structure Dashboard where
  addr : String
  /-- The longest wait for a reply. -/
  timeout : Span
  retry : Backoff
deriving DecidableEq

/-- The line of a client to its peer. -/
structure Link (π : Type) where
  peer : π
  /-- A line is open. -/
  connected : Bool

namespace Dashboard

variable {π : Type}

/-- What the driver says about itself. -/
def info (d : Dashboard) : DriverInfo := ⟨"Universal Robots", "dashboard", .tcp d.addr⟩

/-! ### Lines of text -/

/-- The next line, without blanks at its ends. -/
def readReply (d : Dashboard) (p : Peer π) (peer : π) : π × Except String String :=
  match p.receive peer d.timeout with
  | (peer', .line text) => (peer', .ok (Text.trimmed text))
  | (peer', .closed) => (peer', .error "dashboard closed the connection")
  | (peer', .late) => (peer', .error "dashboard read timeout")
  | (peer', .failed reason) => (peer', .error reason)

/-- Open a line and read the greeting.  The line is given up if there is none. -/
def openLine (d : Dashboard) (p : Peer π) (peer : π) : π × Except String Unit :=
  match p.contact peer d.timeout with
  | (peer', .late) => (peer', .error "dashboard connect timeout")
  | (peer', .failed reason) => (peer', .error reason)
  | (peer', .reached) =>
    match d.readReply p peer' with
    | (greeted, .ok _) => (greeted, .ok ())
    | (silent, .error reason) => (p.hangUp silent, .error reason)

/-- Try to open a line until it succeeds or no further attempt is allowed; `attempt` counts from
zero. -/
def connectFrom (d : Dashboard) (p : Peer π) (attempt : Nat) (peer : π) :
    π × Except String Unit :=
  match d.openLine p peer with
  | (peer', .ok _) => (peer', .ok ())
  | (peer', .error reason) =>
    if h : d.retry.allows attempt = true then
      have : attempt + 1 < d.retry.attempts := by simpa [Backoff.allows] using h
      d.connectFrom p (attempt + 1) (p.pause peer' (d.retry.delay attempt))
    else
      (peer', .error ("UR dashboard " ++ d.addr ++ " unreachable after "
        ++ Text.decimal (attempt + 1) ++ " attempts: " ++ reason))
termination_by d.retry.attempts - attempt

/-- Open a line. -/
def connect (d : Dashboard) (p : Peer π) (peer : π) : π × Except String Unit :=
  d.connectFrom p 0 peer

/-- Send a command and read its reply. -/
def exchange (d : Dashboard) (p : Peer π) (peer : π) (command : String) :
    π × Except String String :=
  match p.send peer command with
  | (peer', .error reason) => (peer', .error reason)
  | (peer', .ok _) => d.readReply p peer'

/-- The reply to a command.  A missing line is opened first; a line that failed is given up. -/
def request (d : Dashboard) (p : Peer π) (link : Link π) (command : String) :
    Link π × Except String String :=
  let (ready, opened) := if link.connected then (link.peer, .ok ()) else d.connect p link.peer
  match opened with
  | .error reason => (⟨ready, false⟩, .error reason)
  | .ok _ =>
    match d.exchange p ready command with
    | (peer', .ok reply) => (⟨peer', true⟩, .ok reply)
    | (peer', .error reason) => (⟨p.hangUp peer', false⟩, .error reason)

/-! ### Orders -/

/-- A command whose reply is looked at. -/
def ask {α : Type} (d : Dashboard) (p : Peer π) (link : Link π) (command : String)
    (judge : String → Except String α) : Link π × Except String α :=
  match d.request p link command with
  | (link', .error reason) => (link', .error reason)
  | (link', .ok reply) => (link', judge reply)

/-- The status, asked for in five commands. -/
def status (d : Dashboard) (p : Peer π) (link : Link π) : Link π × Except String RobotStatus :=
  match d.ask p link "robotmode" Reply.mode with
  | (link₁, .error reason) => (link₁, .error reason)
  | (link₁, .ok mode) =>
    match d.ask p link₁ "safetystatus" Reply.safety with
    | (link₂, .error reason) => (link₂, .error reason)
    | (link₂, .ok safety) =>
      match d.ask p link₂ "is in remote control" (Reply.flag "") with
      | (link₃, .error reason) => (link₃, .error reason)
      | (link₃, .ok remote) =>
        match d.ask p link₃ "running" (Reply.flag "Program running:") with
        | (link₄, .error reason) => (link₄, .error reason)
        | (link₄, .ok running) =>
          match d.ask p link₄ "get loaded program" Reply.loadedProgram with
          | (link₅, .error reason) => (link₅, .error reason)
          | (link₅, .ok loaded) => (link₅, .ok ⟨mode, safety, remote, running, loaded⟩)

/-- Start a program, if the status allows it. -/
def start (d : Dashboard) (p : Peer π) (link : Link π) (program : String) : Link π × Answer :=
  match d.status p link with
  | (link₁, .error reason) => (link₁, .error reason)
  | (link₁, .ok status) =>
    match status.blocker with
    | some reason => (link₁, .error ("cannot start " ++ program ++ ": " ++ reason))
    | none =>
      match d.ask p link₁ ("load " ++ program) (Reply.judgeLoad program) with
      | (link₂, .error reason) => (link₂, .error reason)
      | (link₂, .ok _) => d.ask p link₂ "play" (Reply.expect "play" "Starting program")

/-- Carry out an order. -/
def perform (d : Dashboard) (p : Peer π) (link : Link π) : Order → Link π × Answer
  | .run program _ => d.start p link program
  | .stop => d.ask p link "stop" (Reply.expect "stop" "Stopped")
  | .pause => d.ask p link "pause" (Reply.expect "pause" "Pausing program")
  | .play => d.ask p link "play" (Reply.expect "play" "Starting program")

/-- The client as a driver. -/
def hardware (d : Dashboard) (p : Peer π) : Hardware (Link π) :=
  { perform := d.perform p, status := d.status p }

end Dashboard

end Autosampler

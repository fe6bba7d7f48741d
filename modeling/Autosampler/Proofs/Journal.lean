import Autosampler.Robot.Dashboard.Client

/-!
# A journal of the line

Whatever the dashboard does, its client can only open the line, send, wait for a line of text, give
the line up and let time pass.  A peer that notes each of these shows what the client really did, and
in which order.

* `Happening`, `Peer.journaled` — one thing that is done on the line, and a peer that notes it;
* `Dashboard.opening`, `Dashboard.openLine_journaled` — what an attempt to open a line does;
* `Dashboard.round`, `Dashboard.exchange_journaled` — what the exchange of a command does.
-/

namespace Autosampler

/-- One thing that the client does on the line, with what came of it. -/
inductive Happening where
  | contacted (contact : Contact)
  | sent (text : String)
  | received (reception : Reception)
  | hungUp
  | waited (span : Span)

namespace Happening

/-- The text that was sent. -/
def sent? : Happening → Option String
  | sent text => some text
  | _ => none

/-- The time that was let pass. -/
def waited? : Happening → Option Span
  | waited span => some span
  | _ => none

/-- It was an attempt to open a line. -/
def isContact : Happening → Bool
  | contacted _ => true
  | _ => false

end Happening

/-- A peer that notes what is done. -/
def Peer.journaled {π : Type} (p : Peer π) : Peer (π × List Happening) where
  contact side limit :=
    let (after, contact) := p.contact side.1 limit
    ((after, side.2 ++ [.contacted contact]), contact)
  send side text :=
    let (after, result) := p.send side.1 text
    ((after, side.2 ++ [.sent text]), result)
  receive side limit :=
    let (after, reception) := p.receive side.1 limit
    ((after, side.2 ++ [.received reception]), reception)
  hangUp side := (p.hangUp side.1, side.2 ++ [.hungUp])
  pause side span := (p.pause side.1 span, side.2 ++ [.waited span])

namespace Dashboard

variable {π : Type} (d : Dashboard) (p : Peer π) (side : π) (journal : List Happening)

theorem readReply_journaled :
    d.readReply p.journaled (side, journal)
      = (((d.readReply p side).1, journal ++ [.received (p.receive side d.timeout).2]),
          (d.readReply p side).2) := by
  have hreceive : p.journaled.receive (side, journal) d.timeout
      = (((p.receive side d.timeout).1, journal ++ [.received (p.receive side d.timeout).2]),
          (p.receive side d.timeout).2) := rfl
  unfold readReply
  rw [hreceive]
  rcases p.receive side d.timeout with ⟨after, line | _ | _ | _⟩ <;> rfl

/-- What an attempt to open a line does: the line is given up if there is no greeting. -/
def opening : List Happening :=
  match p.contact side d.timeout with
  | (reached, .reached) =>
    match d.readReply p reached with
    | (_, .ok _) => [.contacted .reached, .received (p.receive reached d.timeout).2]
    | (_, .error _) => [.contacted .reached, .received (p.receive reached d.timeout).2, .hungUp]
  | (_, contact) => [.contacted contact]

theorem openLine_journaled :
    d.openLine p.journaled (side, journal)
      = (((d.openLine p side).1, journal ++ d.opening p side), (d.openLine p side).2) := by
  have hcontact : p.journaled.contact (side, journal) d.timeout
      = (((p.contact side d.timeout).1, journal ++ [.contacted (p.contact side d.timeout).2]),
          (p.contact side d.timeout).2) := rfl
  unfold openLine opening
  rw [hcontact]
  rcases p.contact side d.timeout with ⟨reached, _ | _ | reason⟩
  · dsimp only
    rw [readReply_journaled]
    rcases d.readReply p reached with ⟨after, reason | greeting⟩
    · simp [Peer.journaled]
    · simp
  · rfl
  · rfl

/-- What the exchange of a command does. -/
def round (command : String) : List Happening :=
  match p.send side command with
  | (_, .error _) => [.sent command]
  | (asked, .ok _) => [.sent command, .received (p.receive asked d.timeout).2]

theorem exchange_journaled (command : String) :
    d.exchange p.journaled (side, journal) command
      = (((d.exchange p side command).1, journal ++ d.round p side command),
          (d.exchange p side command).2) := by
  have hsend : p.journaled.send (side, journal) command
      = (((p.send side command).1, journal ++ [.sent command]), (p.send side command).2) := rfl
  unfold exchange round
  rw [hsend]
  rcases p.send side command with ⟨asked, reason | _⟩
  · rfl
  · dsimp only
    rw [readReply_journaled, List.append_assoc, List.singleton_append]

end Dashboard

end Autosampler

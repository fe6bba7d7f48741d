import Autosampler.Proofs.Dialogue

/-!
# Requests and replies stay in step

A dashboard greets on every connection and then replies to every command line, in order.  What it
sends may arrive too late, in part, or never, and connections may be refused or closed at any
moment.  The client reads as many lines as it has sent commands, and one more; on a connection where
this has failed it never reads again.

* `Fate`, `Host`, `Desk` — what can happen, a dashboard, and the line to it as it stands;
* `Host.peer` — the dashboard as the other side of a line;
* `Host.Answers` — a text is from the reply to the command sent last on the present connection;
* `Host.InStep`, `Host.inStep_request` — what every request keeps, and what it reads;
* `replies_in_step` — requests and replies in any calls of a driver.
-/

namespace Autosampler

/-! ### A dashboard -/

/-- What becomes of something at one moment. -/
inductive Fate where
  | done
  /-- It does not happen within the time limit. -/
  | late
  /-- The connection is refused or closed. -/
  | closed
  /-- The connection is closed when so many characters of a line have arrived. -/
  | cut (characters : Nat)
  | failed (reason : String)
deriving DecidableEq

/-- A dashboard, and what happens from moment to moment. -/
structure Host where
  /-- The greeting on each connection. -/
  greeting : Nat → String
  /-- The reply to a command line, on each connection and after the command lines before it. -/
  reply : Nat → List String → String → String
  fate : Nat → Fate

/-- The line to a dashboard.  What was sent on it and not yet read may still arrive. -/
structure Desk where
  /-- The number of moments that have passed. -/
  moment : Nat
  /-- The number of the present connection. -/
  connection : Nat
  /-- The texts that were sent on the present connection. -/
  sent : List String
  /-- The number of lines that were read from it. -/
  read : Nat
  /-- The line that was read last had its end. -/
  whole : Bool
deriving DecidableEq

namespace Desk

/-- The command lines of a text that is sent: one more than it has newlines. -/
def commandLines (text : String) : List String := (text.toList.splitOn '\n').map String.ofList

/-- The command lines on the present connection. -/
def commands (desk : Desk) : List String := desk.sent.flatMap commandLines

/-- A moment passes. -/
def tick (desk : Desk) : Desk := { desk with moment := desk.moment + 1 }

/-- A line is read. -/
def note (desk : Desk) (whole : Bool) : Desk :=
  { desk.tick with read := desk.read + 1, whole := whole }

end Desk

namespace Host

variable (host : Host) (desk : Desk)

/-- The line that arrives next on the present connection: the greeting, then the replies. -/
def line? : Option String :=
  match desk.read with
  | 0 => some (host.greeting desk.connection)
  | n + 1 => desk.commands[n]?.map (host.reply desk.connection (desk.commands.take n))

/-- Wait for a line. -/
def receive : Desk × Reception :=
  match host.fate desk.moment, host.line? desk with
  | .done, some line => (desk.note true, .line line)
  | .cut characters, some line =>
    (desk.note false,
      if line.toList.take characters = [] then .closed
      else .line (String.ofList (line.toList.take characters)))
  | .failed reason, _ => (desk.tick, .failed reason)
  | .done, none | .late, _ => (desk.tick, .late)
  | .cut _, none | .closed, _ => (desk.tick, .closed)

/-- Try to open a connection.  What was sent on the one before is out of reach then. -/
def contact : Desk × Contact :=
  match host.fate desk.moment with
  | .done | .cut _ =>
    ({ desk.tick with connection := desk.connection + 1, sent := [], read := 0 }, .reached)
  | .late => (desk.tick, .late)
  | .closed => (desk.tick, .failed "Connection refused (os error 111)")
  | .failed reason => (desk.tick, .failed reason)

/-- Send a text. -/
def send (text : String) : Desk × Except String Unit :=
  ({ desk.tick with sent := desk.sent ++ [text] },
    match host.fate desk.moment with
    | .done | .late => .ok ()
    | .closed | .cut _ => .error "Broken pipe (os error 32)"
    | .failed reason => .error reason)

/-- The dashboard as the other side of a line.  Giving the line up takes nothing back: a reader who
went on would find the late lines there. -/
def peer : Peer Desk where
  contact := fun desk _ => host.contact desk
  send := host.send
  receive := fun desk _ => host.receive desk
  hangUp := id
  pause := fun desk _ => desk

/-- The text is what has arrived of the reply to `command`, the last one sent on the present
connection; it is all of it if the end has arrived. -/
def Answers (command text : String) : Prop :=
  ∃ earlier part, desk.sent = earlier ++ [command] ∧
    part <+: (host.reply desk.connection earlier command).toList ∧
    text = Text.trimmed (String.ofList part) ∧
    (desk.whole = true → String.ofList part = host.reply desk.connection earlier command)

end Host

namespace Desk

variable {desk : Desk}

theorem commandLines_of_single {text : String} (h : '\n' ∉ text.toList) :
    commandLines text = [text] := by
  rw [commandLines, List.splitOn_eq_singleton h, List.map_singleton, String.ofList_toList]

theorem flatMap_commandLines {texts : List String} (h : ∀ text ∈ texts, '\n' ∉ text.toList) :
    texts.flatMap commandLines = texts := by
  induction texts with
  | nil => rfl
  | cons text texts ih =>
    obtain ⟨hfirst, hrest⟩ := List.forall_mem_cons.mp h
    rw [List.flatMap_cons, commandLines_of_single hfirst, ih hrest, List.singleton_append]

theorem commands_of_single (h : ∀ text ∈ desk.sent, '\n' ∉ text.toList) :
    desk.commands = desk.sent := flatMap_commandLines h

end Desk

/-! ### Reading a line -/

namespace Host

variable {host : Host} {desk desk' : Desk} {d : Dashboard} {text : String}

/-- What is read is the start of the next line, and all of it if its end has arrived. -/
theorem receive_line (h : host.receive desk = (desk', .line text)) :
    ∃ line part whole, host.line? desk = some line ∧ desk' = desk.note whole ∧
      part <+: line.toList ∧ text = String.ofList part ∧ (whole = true → text = line) := by
  unfold receive at h
  split at h
  · rename_i line hfate hline
    cases h
    exact ⟨_, _, true, hline, rfl, List.prefix_refl _, String.ofList_toList.symm, fun _ => rfl⟩
  · rename_i characters line hfate hline
    split at h
    · cases h
    · cases h
      exact ⟨line, line.toList.take characters, false, hline, rfl, List.take_prefix _ _, rfl, nofun⟩
  all_goals cases h

theorem readReply_ok (h : d.readReply host.peer desk = (desk', .ok text)) :
    ∃ line part whole, host.line? desk = some line ∧ desk' = desk.note whole ∧
      part <+: line.toList ∧ text = Text.trimmed (String.ofList part) ∧
      (whole = true → String.ofList part = line) := by
  unfold Dashboard.readReply at h
  split at h
  · rename_i peer' received hreceive
    obtain ⟨line, part, whole, hline, rfl, hpart, rfl, hwhole⟩ := receive_line hreceive
    cases h
    exact ⟨line, part, whole, hline, rfl, hpart, rfl, hwhole⟩
  all_goals cases h

/-! ### Opening a line -/

/-- Nothing was sent on the present connection, and its greeting was read. -/
def Greeted (desk : Desk) : Prop := desk.sent = [] ∧ desk.read = 1

theorem contact_reached (h : host.contact desk = (desk', .reached)) :
    desk'.sent = [] ∧ desk'.read = 0 := by
  unfold contact at h
  split at h
  all_goals cases h
  all_goals exact ⟨rfl, rfl⟩

theorem openLine_ok (h : d.openLine host.peer desk = (desk', .ok ())) : Greeted desk' := by
  unfold Dashboard.openLine at h
  split at h
  · cases h
  · cases h
  rename_i reached hcontact
  split at h
  · rename_i greeted greeting hgreeting
    obtain ⟨-, -, whole, -, rfl, -⟩ := readReply_ok hgreeting
    cases h
    obtain ⟨hsent, hread⟩ := contact_reached hcontact
    exact ⟨hsent, congrArg (· + 1) hread⟩
  · cases h

theorem connectFrom_ok {attempt : Nat}
    (h : d.connectFrom host.peer attempt desk = (desk', .ok ())) : Greeted desk' := by
  fun_induction Dashboard.connectFrom d host.peer attempt desk with
  | case1 attempt desk reached result hopen =>
    cases h
    exact openLine_ok hopen
  | case2 attempt desk failed reason hopen hallows hleft ih => exact ih h
  | case3 attempt desk failed reason hopen hallows => cases h

/-! ### Requests -/

/-- As many lines were read from an open line as texts were sent on it, and the greeting. -/
def InStep (link : Link Desk) : Prop :=
  link.connected = true → link.peer.read = link.peer.sent.length + 1

variable {command : String} {link : Link Desk}

theorem sent_of_send {result : Except String Unit} (h : host.send desk command = (desk', result)) :
    desk'.sent = desk.sent ++ [command] ∧ desk'.read = desk.read := by
  cases h
  exact ⟨rfl, rfl⟩

/-- The line that is read after a single command line is the reply to it. -/
theorem line?_of_sent {earlier : List String} {line : String}
    (hsent : desk.sent = earlier ++ [command]) (hread : desk.read = earlier.length + 1)
    (hsingle : ∀ text ∈ desk.sent, '\n' ∉ text.toList) (hline : host.line? desk = some line) :
    line = host.reply desk.connection earlier command := by
  unfold line? at hline
  rw [hread, Desk.commands_of_single hsingle, hsent] at hline
  simpa using hline.symm

theorem exchange_ok (hstep : desk.read = desk.sent.length + 1)
    (h : d.exchange host.peer desk command = (desk', .ok text)) :
    desk'.read = desk'.sent.length + 1 ∧
      ((∀ text ∈ desk'.sent, '\n' ∉ text.toList) → host.Answers desk' command text) := by
  unfold Dashboard.exchange at h
  split at h
  · cases h
  rename_i asked _ hsend
  obtain ⟨hsent, hread⟩ := sent_of_send hsend
  obtain ⟨line, part, whole, hline, rfl, hpart, rfl, hwhole⟩ := readReply_ok h
  constructor
  · show asked.read + 1 = asked.sent.length + 1
    rw [hread, hstep, hsent, List.length_append, List.length_singleton]
  · intro hsingle
    have hreply := line?_of_sent hsent (hread.trans hstep) hsingle hline
    rw [hreply] at hpart hwhole
    exact ⟨desk.sent, part, hsent, hpart, rfl, hwhole⟩

/-- On a line in step a command is exchanged for its reply, or the line is given up. -/
theorem served_cases (hstep : desk.read = desk.sent.length + 1) :
    (∃ closed reason, d.served host.peer desk command = (⟨closed, false⟩, .error reason)) ∨
      ∃ ready desk' reply, ready.read = ready.sent.length + 1 ∧
        d.exchange host.peer ready command = (desk', .ok reply) ∧
        d.served host.peer desk command = (⟨desk', true⟩, .ok reply) := by
  unfold Dashboard.served
  rcases hexchange : d.exchange host.peer desk command with ⟨desk', reason | reply⟩
  · exact Or.inl ⟨_, reason, rfl⟩
  · exact Or.inr ⟨desk, desk', reply, hstep, hexchange, rfl⟩

/-- A request fails and the line is given up, or there is an open line, fresh or in step, on which
the command is exchanged for its reply. -/
theorem request_cases (host : Host) (d : Dashboard) (command : String) (hlink : InStep link) :
    (∃ closed reason, d.request host.peer link command = (⟨closed, false⟩, .error reason)) ∨
      ∃ ready desk' reply, ready.read = ready.sent.length + 1 ∧
        d.exchange host.peer ready command = (desk', .ok reply) ∧
        d.request host.peer link command = (⟨desk', true⟩, .ok reply) := by
  cases hopen : link.connected with
  | true =>
    rw [Dashboard.request_of_connected hopen]
    exact served_cases (hlink hopen)
  | false =>
    rcases hconnect : d.connect host.peer link.peer with ⟨ready, reason | _⟩
    · exact Or.inl ⟨ready, reason, Dashboard.request_of_unreachable hopen hconnect⟩
    obtain ⟨hsent, hread⟩ := connectFrom_ok hconnect
    rw [Dashboard.request_of_reached hopen hconnect]
    exact served_cases (by rw [hread, hsent]; rfl)

theorem inStep_request (hlink : InStep link) :
    InStep (d.noted host.peer link command).link ∧
      ∀ text, (d.noted host.peer link command).answer = .ok text →
        (∀ text ∈ (d.noted host.peer link command).link.peer.sent, '\n' ∉ text.toList) →
          host.Answers (d.noted host.peer link command).link.peer command text := by
  unfold Dashboard.noted
  rcases request_cases host d command hlink with
    ⟨closed, reason, hrequest⟩ | ⟨ready, desk', reply, hready, hexchange, hrequest⟩
  · rw [hrequest]
    exact ⟨nofun, nofun⟩
  · obtain ⟨hstep, hanswers⟩ := exchange_ok hready hexchange
    rw [hrequest]
    refine ⟨fun _ => hstep, fun text htext hsingle => ?_⟩
    cases htext
    exact hanswers hsingle

end Host

/-! ### Calls of a driver -/

/-- **Requests and replies stay in step.**  A driver without a connection is called any number of
times, for orders or for the status, and the dashboard greets and replies in order, with whatever
delays, losses and lost connections.  Every call is a dialogue of requests.  A text that answers a
request is from the reply to this very command on the present connection, and all of the reply if it
has arrived to its end, as long as no text sent on this connection has a newline in it. -/
theorem replies_in_step (host : Host) (d : Dashboard) (desk : Desk) (calls : List DriverCall) :
    (∀ (link : Link Desk) (order : Order),
        d.perform host.peer link order = (d.hold host.peer (.ofOrder order) link).outcome) ∧
      (∀ link : Link Desk, d.status host.peer link = (d.hold host.peer .status link).outcome) ∧
      ∀ asked ∈ (d.callAll host.peer ⟨desk, false⟩ calls).2, ∀ text, asked.answer = .ok text →
        (∀ sent ∈ asked.link.peer.sent, '\n' ∉ sent.toList) →
          host.Answers asked.link.peer asked.command text := by
  refine ⟨fun _ _ => Dashboard.perform_eq_hold _ _, fun _ => Dashboard.status_eq_hold _, ?_⟩
  have hclosed : Host.InStep ⟨desk, false⟩ := nofun
  exact (Dashboard.callAll_induction (fun _ _ => Host.inStep_request) calls hclosed).2

/-- The replies of a dashboard at rest. -/
def usualReply (command : String) : String :=
  match command with
  | "robotmode" => "Robotmode: IDLE"
  | "safetystatus" => "Safetystatus: NORMAL"
  | "is in remote control" => "true"
  | "running" => "Program running: false"
  | "get loaded program" => "No program loaded"
  | "stop" => "Stopped"
  | "play" => "Starting program"
  | _ => if Reply.startsWith "load " command then "Loading program:" else "Unknown command"

/-- A dashboard at rest, with such moments. -/
def usualHost (fate : Nat → Fate) : Host := ⟨fun _ => "Connected", fun _ _ => usualReply, fate⟩

/-- A client of a dashboard in the next room. -/
def nextRoom : Dashboard := ⟨"robot:29999", Span.ofMillis 2000, Backoff.usual⟩

theorem answer_of_toOption {answer : Except String String} {text : String}
    (h : answer.toOption = some text) : answer = .ok text := by
  cases answer with
  | error reason => cases h
  | ok reply => exact congrArg Except.ok (Option.some.inj h)

/-- The requests of some calls, when the dashboard at rest has such moments. -/
def requestsInRoom (fate : Nat → Fate) (calls : List DriverCall) : List (Asked Desk) :=
  (nextRoom.callAll (usualHost fate).peer ⟨⟨0, 0, [], 0, true⟩, false⟩ calls).2

/-- The fourth moment is a timeout. -/
def fourthLate (moment : Nat) : Fate := if moment = 3 then .late else .done

/-- The reply to `stop` is too late, and `play` gets its own reply, on another connection. -/
theorem replies_in_step_after_timeout :
    ∃ asked ∈ requestsInRoom fourthLate [.perform .stop, .perform .play],
      asked.command = "play" ∧ asked.answer = .ok "Starting program" ∧
        asked.link.peer.connection = 2 ∧ (∀ sent ∈ asked.link.peer.sent, '\n' ∉ sent.toList) ∧
        (usualHost fourthLate).Answers asked.link.peer asked.command "Starting program" := by
  have hlog : ∃ asked ∈ requestsInRoom fourthLate [.perform .stop, .perform .play],
      asked.command = "play" ∧ asked.answer.toOption = some "Starting program" ∧
        asked.link.peer.connection = 2 ∧ ∀ sent ∈ asked.link.peer.sent, '\n' ∉ sent.toList := by
    decide +kernel
  obtain ⟨asked, hmem, hcommand, htext, hsecond, hsingle⟩ := hlog
  have hanswer := answer_of_toOption htext
  exact ⟨asked, hmem, hcommand, hanswer, hsecond, hsingle,
    (replies_in_step (usualHost fourthLate) nextRoom _ _).2.2 asked hmem _ hanswer hsingle⟩

/-- A program's name has a newline in it, so that its command is two command lines, and `play` gets
the reply to the second one. -/
theorem newline_in_name_out_of_step :
    ∃ asked ∈ requestsInRoom (fun _ => .done) [.perform (.run "a.urp\nb" "run_program")],
      asked.command = "play" ∧ asked.answer = .ok "Unknown command" ∧
        ¬(usualHost fun _ => .done).Answers asked.link.peer asked.command "Unknown command" := by
  have hlog : ∃ asked ∈ requestsInRoom (fun _ => .done) [.perform (.run "a.urp\nb" "run_program")],
      asked.command = "play" ∧ asked.answer.toOption = some "Unknown command" ∧
        asked.link.peer.whole = true := by decide +kernel
  obtain ⟨asked, hmem, hcommand, hanswer, harrived⟩ := hlog
  refine ⟨asked, hmem, hcommand, answer_of_toOption hanswer, ?_⟩
  rintro ⟨earlier, part, -, -, htext, hwhole⟩
  have hreply : String.ofList part = "Starting program" := by
    rw [hwhole harrived, hcommand]
    rfl
  rw [hreply] at htext
  exact absurd htext (by decide +kernel)

end Autosampler

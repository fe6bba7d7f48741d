import Autosampler.Proofs.Attempts
import Autosampler.Proofs.Written

/-!
# Starts after a clean status

A program is started by seven commands, five of which ask for the status.  Each command is sent only
if the reply to the one before it makes sense, and a call never opens a line after its first command.
So the commands of one call are decided by the replies of this very call.

* `Dialogue.asks`, `Dialogue.concludes` — the commands and the result of a dialogue, given the replies;
* `Dialogue.Within` — a dialogue that keeps to a list of commands;
* `startCommands`, `Cleared` — the commands of a start, and replies that allow it;
* `Dialogue.load_asked_iff`, `Dialogue.play_asked_iff`, `Dialogue.started_iff` — what decides on them;
* `Round`, `Proceedings`, `Dashboard.hold_journaled` — what a dialogue does on the line;
* `getElem_mem_iff_of_prefix` — how many commands are sent decides which ones;
* `started_only_when_clear` — the commands of a start, on the line.
-/

namespace Autosampler

/-! ### A dialogue, given the replies -/

namespace Dialogue

variable {α β : Type}

/-- The commands that are asked if these are the replies. -/
def asks : Dialogue α → List String → List String
  | done _, _ => []
  | ask command _, [] => [command]
  | ask command next, reply :: replies => command :: (next reply).asks replies

/-- The result, if the dialogue is over after these replies. -/
def concludes : Dialogue α → List String → Option (Except String α)
  | done result, [] => some result
  | done _, _ :: _ => none
  | ask _ _, [] => none
  | ask _ next, reply :: replies => (next reply).concludes replies

/-- Whatever the replies are, these commands are asked, in order, up to some point. -/
def Within : List String → Dialogue α → Prop
  | _, done _ => True
  | [], ask _ _ => False
  | first :: script, ask command next => command = first ∧ ∀ reply, (next reply).Within script

theorem asks_prefix {script : List String} {dialogue : Dialogue α} (h : dialogue.Within script)
    (replies : List String) : dialogue.asks replies <+: script := by
  induction dialogue generalizing script replies with
  | done result => exact List.nil_prefix
  | ask command next ih =>
    cases script with
    | nil => exact h.elim
    | cons first script =>
      obtain ⟨rfl, hnext⟩ := h
      cases replies with
      | nil => exact List.prefix_append [command] script
      | cons reply replies => exact List.cons_prefix_cons.mpr ⟨rfl, ih reply (hnext reply) replies⟩

section Put

variable {command : String} {judge : String → Except String β} {next : β → Dialogue α}
  {script replies : List String}

theorem within_put (h : ∀ b, (next b).Within script) :
    (put command judge next).Within (command :: script) := by
  refine ⟨rfl, fun reply => ?_⟩
  show Within script (judged (judge reply) next)
  cases judge reply with
  | error reason => cases script <;> trivial
  | ok b => exact h b

theorem andThen_put {γ : Type} (after : α → Dialogue γ) :
    (put command judge next).andThen after = put command judge fun b => (next b).andThen after := by
  unfold put
  rw [andThen]
  congr 1
  funext reply
  cases judge reply <;> rfl

theorem asks_length_pos : 0 < ((put command judge next).asks replies).length := by
  cases replies <;> exact Nat.succ_pos _

/-- A further command is asked if there is a reply that makes sense. -/
theorem lt_asks_length_put {n : Nat} :
    n + 1 < ((put command judge next).asks replies).length ↔
      ∃ reply rest b, replies = reply :: rest ∧ judge reply = .ok b ∧
        n < ((next b).asks rest).length := by
  cases replies with
  | nil => simp [put, asks]
  | cons reply rest =>
    cases hjudge : judge reply with
    | error reason => simp [put, asks, judged, hjudge]
    | ok b => simp [put, asks, judged, hjudge]

theorem concludes_put {a : α} :
    (put command judge next).concludes replies = some (.ok a) ↔
      ∃ reply rest b, replies = reply :: rest ∧ judge reply = .ok b ∧
        (next b).concludes rest = some (.ok a) := by
  cases replies with
  | nil => simp [put, concludes]
  | cons reply rest =>
    cases hjudge : judge reply with
    | error reason => cases rest <;> simp [put, concludes, judged, hjudge]
    | ok b => simp [put, concludes, judged, hjudge]

end Put

end Dialogue

/-! ### The start of a program -/

/-- The commands of a start. -/
def startCommands (name : String) : List String :=
  ["robotmode", "safetystatus", "is in remote control", "running", "get loaded program",
   "load " ++ name, "play"]

/-- The first five replies report a status; others follow. -/
inductive Reports : List String → RobotStatus → List String → Prop
  | intro {mode safety remote running loaded : String} {rest : List String} {status : RobotStatus}
      (readsMode : Reply.mode mode = .ok status.mode)
      (readsSafety : Reply.safety safety = .ok status.safety)
      (readsRemote : Reply.flag "" remote = .ok status.remoteControl)
      (readsRunning : Reply.flag "Program running:" running = .ok status.programRunning)
      (readsLoaded : Reply.loadedProgram loaded = .ok status.loadedProgram) :
      Reports (mode :: safety :: remote :: running :: loaded :: rest) status rest

/-- The first five replies report a status that allows a start. -/
def Cleared (replies : List String) : Prop :=
  ∃ status rest, Reports replies status rest ∧ status.blocker = none

/-- The reply in this place starts with such a word. -/
def StartsAt (replies : List String) (place : Nat) (word : String) : Prop :=
  ∃ reply, replies[place]? = some reply ∧ Reply.startsWith word reply = true

theorem Reports.startsAt {replies rest : List String} {status : RobotStatus}
    (h : Reports replies status rest) (place : Nat) (word : String) :
    StartsAt replies (place + 5) word ↔ StartsAt rest place word := by
  cases h
  rfl

theorem Reports.length {replies rest : List String} {status : RobotStatus}
    (h : Reports replies status rest) : replies.length = rest.length + 5 := by
  cases h
  rfl

theorem Reply.judgeLoad_eq_ok {program reply : String} {u : Unit} :
    Reply.judgeLoad program reply = .ok u ↔ Reply.startsWith "Loading program:" reply = true := by
  unfold Reply.judgeLoad
  split
  · simp [*]
  · split
    · simp [*]
    · split <;> simp [*]

theorem Reply.expect_eq_ok {command expected reply : String} {u : Unit} :
    Reply.expect command expected reply = .ok u ↔ Reply.startsWith expected reply = true := by
  unfold Reply.expect
  split <;> simp [*]

namespace Dialogue

variable {name tag : String} {replies : List String} {status : RobotStatus}

/-- A start is one long dialogue. -/
theorem ofOrder_run :
    ofOrder (.run name tag) =
      put "robotmode" Reply.mode fun mode =>
      put "safetystatus" Reply.safety fun safety =>
      put "is in remote control" (Reply.flag "") fun remote =>
      put "running" (Reply.flag "Program running:") fun running =>
      put "get loaded program" Reply.loadedProgram fun loaded =>
      load name ⟨mode, safety, remote, running, loaded⟩ := by
  simp only [ofOrder, Dialogue.status, andThen_put]
  rfl

theorem within_load : (load name status).Within ["load " ++ name, "play"] := by
  unfold load
  split
  · trivial
  · exact within_put fun _ => within_put fun _ => trivial

theorem within_start : (ofOrder (.run name tag)).Within (startCommands name) := by
  rw [ofOrder_run]
  exact within_put fun _ => within_put fun _ => within_put fun _ => within_put fun _ =>
    within_put fun _ => within_load

theorem asks_load_pos : 0 < ((load name status).asks replies).length ↔ status.blocker = none := by
  unfold load
  split
  · rename_i reason hblocker
    simp [asks, hblocker]
  · rename_i hblocker
    simp [asks_length_pos, hblocker]

theorem lt_asks_length_load : 1 < ((load name status).asks replies).length ↔
    status.blocker = none ∧ StartsAt replies 0 "Loading program:" := by
  unfold load
  split
  · rename_i reason hblocker
    simp [asks, hblocker]
  · rename_i hblocker
    rw [lt_asks_length_put]
    simp only [Reply.judgeLoad_eq_ok, order, asks_length_pos, and_true, hblocker, true_and]
    constructor
    · rintro ⟨reply, rest, -, rfl, hreply⟩
      exact ⟨reply, rfl, hreply⟩
    · rintro ⟨reply, hfirst, hreply⟩
      cases replies with
      | nil => cases hfirst
      | cons first rest =>
        cases hfirst
        exact ⟨reply, rest, (), rfl, hreply⟩

theorem concludes_load (h : (load name status).concludes replies = some (.ok ())) :
    status.blocker = none ∧ StartsAt replies 0 "Loading program:" ∧
      StartsAt replies 1 "Starting program" := by
  unfold load at h
  split at h
  · cases replies <;> cases h
  · rename_i hblocker
    obtain ⟨loaded, _, _, rfl, hloaded, hplay⟩ := concludes_put.mp h
    obtain ⟨started, rest, _, rfl, hstarted, -⟩ := concludes_put.mp hplay
    exact ⟨hblocker, ⟨loaded, rfl, Reply.judgeLoad_eq_ok.mp hloaded⟩, started, rfl,
      Reply.expect_eq_ok.mp hstarted⟩

theorem concludes_load_of {loaded started : String} (hclear : status.blocker = none)
    (hloaded : Reply.startsWith "Loading program:" loaded = true)
    (hstarted : Reply.startsWith "Starting program" started = true) :
    (load name status).concludes [loaded, started] = some (.ok ()) := by
  unfold load
  rw [hclear]
  refine concludes_put.mpr ⟨loaded, _, (), rfl, Reply.judgeLoad_eq_ok.mpr hloaded, ?_⟩
  exact concludes_put.mpr ⟨started, _, (), rfl, Reply.expect_eq_ok.mpr hstarted, rfl⟩

/-- What goes on from reply to reply goes on through the report of the status. -/
theorem start_iff {P : Nat → Dialogue Unit → List String → Prop}
    (hput : ∀ {β : Type} {n : Nat} {command : String} {judge : String → Except String β}
      {next : β → Dialogue Unit} {replies : List String},
      P (n + 1) (put command judge next) replies ↔
        ∃ reply rest b, replies = reply :: rest ∧ judge reply = .ok b ∧ P n (next b) rest)
    {n : Nat} :
    P (n + 5) (ofOrder (.run name tag)) replies ↔
      ∃ status rest, Reports replies status rest ∧ P n (load name status) rest := by
  rw [ofOrder_run]
  simp only [hput]
  constructor
  · rintro ⟨_, _, mode, rfl, hmode, _, _, safety, rfl, hsafety, _, _, remote, rfl, hremote, _, _,
      running, rfl, hrunning, _, rest, loaded, rfl, hloaded, hload⟩
    exact ⟨_, rest, .intro hmode hsafety hremote hrunning hloaded, hload⟩
  · rintro ⟨status, rest, ⟨hmode, hsafety, hremote, hrunning, hloaded⟩, hload⟩
    exact ⟨_, _, _, rfl, hmode, _, _, _, rfl, hsafety, _, _, _, rfl, hremote, _, _, _, rfl,
      hrunning, _, _, _, rfl, hloaded, hload⟩

theorem lt_asks_length_start (n : Nat) :
    n + 5 < ((ofOrder (.run name tag)).asks replies).length ↔
      ∃ status rest, Reports replies status rest ∧ n < ((load name status).asks rest).length :=
  start_iff (P := fun n dialogue replies => n < (dialogue.asks replies).length) lt_asks_length_put

theorem concludes_start :
    (ofOrder (.run name tag)).concludes replies = some (.ok ()) ↔
      ∃ status rest, Reports replies status rest ∧
        (load name status).concludes rest = some (.ok ()) :=
  start_iff (P := fun _ dialogue replies => dialogue.concludes replies = some (.ok ()))
    concludes_put (n := 0)

/-- The program is asked to be loaded exactly after a clear status. -/
theorem load_asked_iff : 5 < ((ofOrder (.run name tag)).asks replies).length ↔ Cleared replies := by
  rw [lt_asks_length_start 0]
  simp only [asks_load_pos, Cleared]

/-- It is asked to be played exactly if it was loaded then. -/
theorem play_asked_iff : 6 < ((ofOrder (.run name tag)).asks replies).length ↔
    Cleared replies ∧ StartsAt replies 5 "Loading program:" := by
  rw [lt_asks_length_start 1]
  simp only [lt_asks_length_load]
  constructor
  · rintro ⟨status, rest, hreports, hclear, hloaded⟩
    exact ⟨⟨status, rest, hreports, hclear⟩, (hreports.startsAt 0 _).mpr hloaded⟩
  · rintro ⟨⟨status, rest, hreports, hclear⟩, hloaded⟩
    exact ⟨status, rest, hreports, hclear, (hreports.startsAt 0 _).mp hloaded⟩

/-- The program is started if it is asked to be played and the reply says so. -/
theorem started_iff (hlength : replies.length ≤ 7) :
    (ofOrder (.run name tag)).concludes replies = some (.ok ()) ↔
      6 < ((ofOrder (.run name tag)).asks replies).length ∧
        StartsAt replies 6 "Starting program" := by
  rw [concludes_start, play_asked_iff]
  constructor
  · rintro ⟨status, rest, hreports, hload⟩
    obtain ⟨hclear, hloaded, hstarted⟩ := concludes_load hload
    exact ⟨⟨⟨status, rest, hreports, hclear⟩, (hreports.startsAt 0 _).mpr hloaded⟩,
      (hreports.startsAt 1 _).mpr hstarted⟩
  · rintro ⟨⟨⟨status, rest, hreports, hclear⟩, hloaded⟩, hstarted⟩
    refine ⟨status, rest, hreports, ?_⟩
    obtain ⟨loaded, hfirst, hloaded⟩ := (hreports.startsAt 0 _).mp hloaded
    obtain ⟨started, hsecond, hstarted⟩ := (hreports.startsAt 1 _).mp hstarted
    have hrest : rest.length ≤ 2 := by
      rw [hreports.length] at hlength
      omega
    clear hreports
    rcases rest with _ | ⟨first, _ | ⟨second, _ | ⟨third, others⟩⟩⟩
    · cases hfirst
    · cases hsecond
    · obtain rfl : first = loaded := Option.some.inj hfirst
      obtain rfl : second = started := Option.some.inj hsecond
      exact concludes_load_of hclear hloaded hstarted
    · simp at hrest

end Dialogue

/-! ### What a dialogue does on the line -/

/-- A command and the line of text that answers it. -/
structure Round where
  command : String
  line : String

namespace Round

variable (r : Round)

/-- The command is sent, and then the line is read. -/
def happenings : List Happening := [.sent r.command, .received (.line r.line)]

/-- The line without blanks at its ends. -/
def reply : String := Text.trimmed r.line

end Round

/-- A last command that is not answered, after which the line is given up. -/
inductive Broken : List Happening → Prop
  | none : Broken []
  | unsent (command : String) : Broken [.sent command, .hungUp]
  | unanswered (command : String) (reception : Reception)
      (silent : ∀ text, reception ≠ .line text) :
      Broken [.sent command, .received reception, .hungUp]

/-- What is done on the line in a call: it is opened, commands are answered, and one may be left. -/
structure Proceedings where
  opening : List Happening
  rounds : List Round
  broken : List Happening

namespace Proceedings

/-- All of it, in order. -/
def happenings (c : Proceedings) : List Happening :=
  c.opening ++ (c.rounds.flatMap Round.happenings ++ c.broken)

/-- The commands that are sent, answered or not. -/
def sent (c : Proceedings) : List String := c.happenings.filterMap Happening.sent?

def replies (c : Proceedings) : List String := c.rounds.map Round.reply

/-- Nothing is sent before the line is open, an open line is kept, and nothing is done after a
command that is not answered. -/
structure Orderly (connected : Bool) (c : Proceedings) : Prop where
  quiet : c.opening.filterMap Happening.sent? = []
  kept : connected = true → c.opening = []
  broken : Broken c.broken

theorem sent_rounds (rounds : List Round) :
    (rounds.flatMap Round.happenings).filterMap Happening.sent? = rounds.map Round.command := by
  induction rounds with
  | nil => rfl
  | cons r rounds ih =>
    rw [List.flatMap_cons, List.filterMap_append, ih, List.map_cons]
    rfl

variable {c : Proceedings} {connected : Bool}

theorem Orderly.sent_eq (h : c.Orderly connected) :
    c.sent = c.rounds.map Round.command ++ c.broken.filterMap Happening.sent? := by
  rw [sent, happenings, List.filterMap_append, h.quiet, List.nil_append, List.filterMap_append,
    sent_rounds]

theorem Orderly.replies_length_le (h : c.Orderly connected) : c.replies.length ≤ c.sent.length := by
  rw [h.sent_eq, replies, List.length_map, List.length_append, List.length_map]
  exact Nat.le_add_right _ _

end Proceedings

namespace Dashboard

variable {π : Type} (d : Dashboard) (p : Peer π)

theorem opening_sent (side : π) : (d.opening p side).filterMap Happening.sent? = [] := by
  unfold opening
  split
  · split <;> rfl
  · rfl

theorem journalThrough_sent (side : π) (last : Nat) :
    (d.journalThrough p side last).filterMap Happening.sent? = [] := by
  rw [d.journalThrough_filterMap p side (d.opening_sent p)]
  exact List.filterMap_eq_nil_iff.mpr fun _ _ => rfl

/-- What an exchange does, and its result. -/
theorem round_cases (side : π) (command : String) :
    (∃ line, d.round p side command = [.sent command, .received (.line line)] ∧
        (d.exchange p side command).2 = .ok (Text.trimmed line)) ∨
      (∃ reason, (d.exchange p side command).2 = .error reason) ∧
        Broken (d.round p side command ++ [.hungUp]) := by
  unfold round exchange
  rcases p.send side command with ⟨asked, reason | _⟩
  · exact .inr ⟨⟨reason, rfl⟩, .unsent command⟩
  · dsimp only [readReply]
    rcases p.receive asked d.timeout with ⟨after, line | _ | _ | reason⟩
    · exact .inl ⟨line, rfl, rfl⟩
    · exact .inr ⟨⟨_, rfl⟩, .unanswered command _ nofun⟩
    · exact .inr ⟨⟨_, rfl⟩, .unanswered command _ nofun⟩
    · exact .inr ⟨⟨_, rfl⟩, .unanswered command _ nofun⟩

theorem round_sent (side : π) (command : String) :
    (d.round p side command).filterMap Happening.sent? = [command] := by
  unfold round
  split <;> rfl

/-- Opening a line sends nothing. -/
theorem connect_journaled (side : π) (journal : List Happening) :
    ∃ opening, opening.filterMap Happening.sent? = [] ∧
      d.connect p.journaled (side, journal)
        = (((d.connect p side).1, journal ++ opening), (d.connect p side).2) := by
  obtain ⟨last, -, -, -, hjournal⟩ :=
    d.exists_lastTry p side 0 side rfl (show 0 < max 1 d.retry.attempts by omega) nofun
  have hfirst := hjournal journal
  rw [journalBefore, List.append_nil] at hfirst
  exact ⟨_, d.journalThrough_sent p side last, hfirst⟩

/-- What becomes of a command: what is done with it on the line, if there is one, whether the line is
open after that, and the answer. -/
inductive Requested (connected : Bool) (command : String) :
    List Happening → Bool → Except String String → Prop
  | unopened (reason : String) (closed : connected = false) :
      Requested connected command [] false (.error reason)
  | answered (line : String) :
      Requested connected command (Round.happenings ⟨command, line⟩) true
        (.ok (Text.trimmed line))
  | broken {rest : List Happening} (reason : String) (gaveUp : Broken rest)
      (sent : rest.filterMap Happening.sent? = [command]) :
      Requested connected command rest false (.error reason)

theorem served_journaled (connected : Bool) (side : π) (journal : List Happening)
    (command : String) :
    ∃ rest, (d.served p.journaled (side, journal) command).1.peer.2 = journal ++ rest ∧
      Requested connected command rest (d.served p.journaled (side, journal) command).1.connected
        (d.served p.journaled (side, journal) command).2 := by
  unfold served
  rw [exchange_journaled]
  rcases d.round_cases p side command with ⟨line, hround, hanswer⟩ | ⟨⟨reason, hanswer⟩, hbroken⟩
  · rw [hanswer, hround]
    exact ⟨_, rfl, .answered line⟩
  · have hsent :
        (d.round p side command ++ [Happening.hungUp]).filterMap Happening.sent? = [command] := by
      rw [List.filterMap_append, round_sent]
      rfl
    rw [hanswer]
    exact ⟨_, List.append_assoc journal _ _, .broken reason hbroken hsent⟩

/-- A request opens the line if there is none, and then does one round or breaks off. -/
theorem request_journaled (link : Link (π × List Happening)) (command : String) :
    ∃ opening rest, opening.filterMap Happening.sent? = [] ∧
      (link.connected = true → opening = []) ∧
      (d.request p.journaled link command).1.peer.2 = link.peer.2 ++ (opening ++ rest) ∧
      Requested link.connected command rest (d.request p.journaled link command).1.connected
        (d.request p.journaled link command).2 := by
  obtain ⟨⟨side, journal⟩, connected⟩ := link
  cases connected with
  | true =>
    obtain ⟨rest, hrest, hrequested⟩ := d.served_journaled p true side journal command
    rw [request_of_connected rfl]
    exact ⟨[], rest, rfl, fun _ => rfl, hrest, hrequested⟩
  | false =>
    obtain ⟨opening, hquiet, hconnect⟩ := d.connect_journaled p side journal
    cases hopened : (d.connect p side).2 with
    | error reason =>
      rw [hopened] at hconnect
      rw [request_of_unreachable rfl hconnect]
      exact ⟨opening, [], hquiet, nofun, by rw [List.append_nil], .unopened reason rfl⟩
    | ok _ =>
      obtain ⟨rest, hrest, hrequested⟩ :=
        d.served_journaled p false (d.connect p side).1 (journal ++ opening) command
      rw [hopened] at hconnect
      rw [request_of_reached rfl hconnect]
      exact ⟨opening, rest, hquiet, nofun, hrest.trans (List.append_assoc _ _ _), hrequested⟩

/-- A dialogue is decided by the replies in it, unless no line could be opened. -/
theorem hold_journaled {α : Type} (dialogue : Dialogue α) (link : Link (π × List Happening)) :
    ∃ c : Proceedings, c.Orderly link.connected ∧
      (d.hold p.journaled dialogue link).link.peer.2 = link.peer.2 ++ c.happenings ∧
      (c.sent = dialogue.asks c.replies ∨ link.connected = false ∧ c.sent = []) ∧
      ∀ a, (d.hold p.journaled dialogue link).result = .ok a ↔
        dialogue.concludes c.replies = some (.ok a) := by
  induction dialogue generalizing link with
  | done result =>
    refine ⟨⟨[], [], []⟩, ⟨rfl, fun _ => rfl, .none⟩, (List.append_nil _).symm, .inl rfl, ?_⟩
    exact fun a => (Option.some_inj (a := result) (b := .ok a)).symm
  | ask command next ih =>
    obtain ⟨opening, rest, hquiet, hkept, hjournal, hrequested⟩ :=
      d.request_journaled p link command
    simp only [hold, noted]
    generalize d.request p.journaled link command = requested at hjournal hrequested ⊢
    obtain ⟨after, answer⟩ := requested
    dsimp only at hjournal hrequested ⊢
    generalize hopen : after.connected = isOpen at hrequested
    cases hrequested with
    | unopened reason closed =>
      refine ⟨⟨opening, [], []⟩, ⟨hquiet, hkept, .none⟩, hjournal, .inr ⟨closed, ?_⟩, ?_⟩
      · rw [Proceedings.sent, Proceedings.happenings, List.filterMap_append, hquiet]
        rfl
      · simp [Proceedings.replies, Dialogue.concludes]
    | answered line =>
      obtain ⟨c, hc, hpeer, hsent, hresult⟩ := ih (Text.trimmed line) after
      have horderly : Proceedings.Orderly link.connected
          ⟨opening, ⟨command, line⟩ :: c.rounds, c.broken⟩ := ⟨hquiet, hkept, hc.broken⟩
      refine ⟨_, horderly, ?_, .inl ?_, hresult⟩
      · rw [hpeer, hjournal]
        simp [Proceedings.happenings, hc.kept hopen]
      · have hasked : c.sent = (next (Text.trimmed line)).asks c.replies := by
          rcases hsent with hsent | ⟨hclosed, -⟩
          · exact hsent
          · rw [hopen] at hclosed
            cases hclosed
        rw [horderly.sent_eq, List.map_cons, List.cons_append, ← hc.sent_eq, hasked]
        rfl
    | broken reason gaveUp sent =>
      have horderly : Proceedings.Orderly link.connected ⟨opening, [], rest⟩ :=
        ⟨hquiet, hkept, gaveUp⟩
      refine ⟨_, horderly, hjournal, .inl ?_, ?_⟩
      · rw [horderly.sent_eq, sent]
        rfl
      · simp [Proceedings.replies, Dialogue.concludes]

end Dashboard

/-! ### The start of a program, on the line -/

/-- In a prefix of a list without repetitions, the length decides what is there. -/
theorem getElem_mem_iff_of_prefix {sent script : List String} (hnodup : script.Nodup)
    (h : sent <+: script) {place : Nat} (hplace : place < script.length) :
    script[place] ∈ sent ↔ place < sent.length := by
  have htake := List.prefix_iff_eq_take.mp h
  have hmem := List.mem_take_iff_idxOf_lt (n := sent.length) (List.getElem_mem hplace)
  rwa [← htake, hnodup.idxOf_getElem] at hmem

section Start

variable {name : String} {sent : List String}

theorem nodup_startCommands : (startCommands name).Nodup := by
  have hload : "load " ++ name ∉ ["robotmode", "safetystatus", "is in remote control", "running",
      "get loaded program"] ++ ["play"] := fun hmem =>
    Dashboard.load_not_mem_fixedCommands name (List.mem_append_left ["stop", "pause"] hmem)
  exact List.nodup_middle.mpr (List.nodup_cons.mpr ⟨hload, by decide⟩)

theorem load_mem_iff (h : sent <+: startCommands name) :
    "load " ++ name ∈ sent ↔ 5 < sent.length :=
  getElem_mem_iff_of_prefix nodup_startCommands h (show 5 < 7 by decide)

theorem play_mem_iff (h : sent <+: startCommands name) : "play" ∈ sent ↔ 6 < sent.length :=
  getElem_mem_iff_of_prefix nodup_startCommands h (show 6 < 7 by decide)

theorem eq_startCommands_iff (h : sent <+: startCommands name) :
    sent = startCommands name ↔ 6 < sent.length := by
  constructor
  · rintro rfl
    show 6 < 7
    decide
  · exact fun hlength => h.eq_of_length_le hlength

theorem single_startCommands (hname : '\n' ∉ name.toList) :
    ∀ text ∈ startCommands name, '\n' ∉ text.toList := by
  have hload : '\n' ∉ ("load " ++ name).toList := by
    rw [String.toList_append, List.mem_append]
    exact fun h => h.elim (by decide) hname
  simp only [startCommands, List.forall_mem_cons]
  exact ⟨by decide, by decide, by decide, by decide, by decide, hload, by decide, nofun⟩

/-- If no line is opened, nothing but the first command could have been asked. -/
theorem asks_nil_start {tag : String} :
    (Dialogue.ofOrder (.run name tag)).asks [] = ["robotmode"] := by
  rw [Dialogue.ofOrder_run]
  rfl

end Start

/-- **A program is started only when the status allows it.**  Whatever the name of the program is and
whatever the dashboard does, a line is opened at most once, before the first command.  The texts that
are sent are the first ones of the commands of a start.  The program is asked to be loaded exactly if
the first five replies of this call report a status that allows a start, it is asked to be played
exactly if the reply to that says that it is loaded, and the call succeeds exactly if all is sent and
the last reply says that the program starts.  If there is no newline in the name, each text is one
command line. -/
theorem started_only_when_clear {π : Type} (d : Dashboard) (p : Peer π)
    (link : Link (π × List Happening)) (name tag : String) :
    let call := d.perform p.journaled link (.run name tag)
    ∃ c : Proceedings, c.Orderly link.connected ∧
      call.1.peer.2 = link.peer.2 ++ c.happenings ∧
      c.sent <+: startCommands name ∧
      ("load " ++ name ∈ c.sent ↔ Cleared c.replies) ∧
      ("play" ∈ c.sent ↔ Cleared c.replies ∧ StartsAt c.replies 5 "Loading program:") ∧
      (call.2 = .ok () ↔ c.sent = startCommands name ∧ StartsAt c.replies 6 "Starting program") ∧
      ('\n' ∉ name.toList → c.sent.flatMap Desk.commandLines = c.sent) := by
  intro call
  obtain ⟨c, horderly, hjournal, hsent, hresult⟩ :=
    d.hold_journaled p (Dialogue.ofOrder (.run name tag)) link
  have hscript : c.sent <+: startCommands name := by
    rcases hsent with hsent | ⟨-, hsent⟩
    · exact hsent ▸ Dialogue.asks_prefix Dialogue.within_start c.replies
    · exact hsent ▸ List.nil_prefix
  -- if no line could be opened, the first command is asked but not sent, so only that one differs
  have hlength : ∀ n, n + 1 < c.sent.length ↔
      n + 1 < ((Dialogue.ofOrder (.run name tag)).asks c.replies).length := by
    intro n
    rcases hsent with hsent | ⟨-, hsent⟩
    · rw [hsent]
    · have hreplies : c.replies = [] := by
        have hle := horderly.replies_length_le
        rw [hsent] at hle
        exact List.eq_nil_of_length_eq_zero (Nat.le_zero.mp hle)
      rw [hsent, hreplies, asks_nil_start]
      simp
  have hcall : call = (d.hold p.journaled (Dialogue.ofOrder (.run name tag)) link).outcome :=
    Dashboard.perform_eq_hold link (.run name tag)
  refine ⟨c, horderly, ?_, hscript, ?_, ?_, ?_, fun hname => ?_⟩
  · rw [hcall]
    exact hjournal
  · rw [load_mem_iff hscript, hlength 4, Dialogue.load_asked_iff]
  · rw [play_mem_iff hscript, hlength 5, Dialogue.play_asked_iff]
  · rw [hcall, eq_startCommands_iff hscript, hlength 5]
    exact (hresult ()).trans
      (Dialogue.started_iff (horderly.replies_length_le.trans hscript.length_le))
  · exact Desk.flatMap_commandLines fun text hmem =>
      single_startCommands hname text (hscript.subset hmem)

/-- A dashboard at rest gets all commands of a start, one to a line. -/
theorem started_only_when_clear_at_rest :
    let call := nextRoom.perform (usualHost fun _ => .done).peer.journaled
      ⟨(⟨0, 0, [], 0, true⟩, []), false⟩ (.run "in4.urp" "load")
    call.2 = .ok () ∧ ∃ c : Proceedings, call.1.peer.2 = c.happenings ∧
      c.sent = startCommands "in4.urp" ∧ c.sent.flatMap Desk.commandLines = c.sent ∧
      Cleared c.replies ∧ StartsAt c.replies 5 "Loading program:" ∧
      StartsAt c.replies 6 "Starting program" := by
  intro call
  have hstarted : call.2 = .ok () := by decide +kernel
  obtain ⟨c, -, hjournal, -, -, hplay, hresult, hlines⟩ := started_only_when_clear nextRoom
    (usualHost fun _ => .done).peer ⟨(⟨0, 0, [], 0, true⟩, []), false⟩ "in4.urp" "load"
  obtain ⟨hsent, hstarts⟩ := hresult.mp hstarted
  have hplayed : "play" ∈ c.sent := hsent ▸ (play_mem_iff (List.prefix_refl _)).mpr (by decide)
  obtain ⟨hclear, hloaded⟩ := hplay.mp hplayed
  exact ⟨hstarted, c, hjournal, hsent, hlines (by decide), hclear, hloaded, hstarts⟩

/-- A dashboard at rest that has no programs. -/
def emptyHost : Host where
  greeting _ := "Connected"
  reply _ _ command :=
    if Reply.startsWith "load " command then "File not found" else usualReply command
  fate _ := .done

/-- A program's name has a newline in it, and after that the command that plays.  So the dashboard is
told to play, although there is no such program. -/
theorem newline_in_name_plays_unloaded :
    let call := nextRoom.perform emptyHost.peer.journaled ⟨(⟨0, 0, [], 0, true⟩, []), false⟩
      (.run "x.urp\nplay" "run_program")
    let lines := (call.1.peer.2.filterMap Happening.sent?).flatMap Desk.commandLines
    lines = ["robotmode", "safetystatus", "is in remote control", "running",
        "get loaded program", "load x.urp", "play"] ∧
      emptyHost.reply 1 (lines.take 5) "load x.urp" = "File not found" ∧
      Reply.startsWith "Loading program:" "File not found" = false ∧
      ¬lines <+: startCommands "x.urp\nplay" := by
  decide +kernel

end Autosampler

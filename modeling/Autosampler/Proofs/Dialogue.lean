import Autosampler.Robot.Dashboard.Client

/-!
# Dialogues with the dashboard

What the driver does for an order or a status is a dialogue with the dashboard: a command is asked,
and its reply decides how it goes on.  A dialogue does not say over which line it is held.  So what
one request keeps is kept by all that the driver can ever do.

* `Dialogue`, `Dialogue.andThen` — dialogues, and one dialogue after another;
* `Dialogue.status`, `Dialogue.ofOrder` — the dialogues of the driver;
* `Dashboard.served` — what a request does on a line that is ready, or was opened for it;
* `Dashboard.hold`, `Asked` — a dialogue held over a line, with all that was asked in it;
* `Dashboard.status_eq_hold`, `Dashboard.perform_eq_hold` — what the driver does is its dialogues;
* `Dialogue.Only` — a dialogue in which certain commands are asked and no others;
* `DriverCall`, `Dashboard.callAll` — calls of the driver, one after the other;
* `Dashboard.hold_only`, `Dashboard.hold_induction`, `Dashboard.callAll_induction` — what requests
  keep is kept.
-/

namespace Autosampler

/-! ### Dialogues -/

/-- A dialogue with a result of type `α`. -/
inductive Dialogue (α : Type) where
  | done (result : Except String α)
  /-- Ask a command, and go on as its reply says.  Without a reply the dialogue is over. -/
  | ask (command : String) (next : String → Dialogue α)

namespace Dialogue

variable {α β : Type}

/-- Go on with a result, unless it is a complaint. -/
def judged (result : Except String β) (next : β → Dialogue α) : Dialogue α :=
  match result with
  | .error reason => done (.error reason)
  | .ok b => next b

/-- Ask a command whose reply is looked at. -/
def put (command : String) (judge : String → Except String β) (next : β → Dialogue α) :
    Dialogue α :=
  ask command fun reply => judged (judge reply) next

/-- One dialogue, and what follows from its result. -/
def andThen (next : β → Dialogue α) : Dialogue β → Dialogue α
  | done result => judged result next
  | ask command rest => ask command fun reply => (rest reply).andThen next

/-- The status, asked for in five commands. -/
def status : Dialogue RobotStatus :=
  put "robotmode" Reply.mode fun mode =>
  put "safetystatus" Reply.safety fun safety =>
  put "is in remote control" (Reply.flag "") fun remote =>
  put "running" (Reply.flag "Program running:") fun running =>
  put "get loaded program" Reply.loadedProgram fun loaded =>
  done (.ok ⟨mode, safety, remote, running, loaded⟩)

/-- A single command. -/
def order (command expected : String) : Dialogue Unit :=
  put command (Reply.expect command expected) fun _ => done (.ok ())

/-- The start of a program, if the status allows it. -/
def load (program : String) (status : RobotStatus) : Dialogue Unit :=
  match status.blocker with
  | some reason => done (.error ("cannot start " ++ program ++ ": " ++ reason))
  | none =>
    put ("load " ++ program) (Reply.judgeLoad program) fun _ => order "play" "Starting program"

/-- The dialogue of an order. -/
def ofOrder : Order → Dialogue Unit
  | .run program _ => status.andThen (load program)
  | .stop => order "stop" "Stopped"
  | .pause => order "pause" "Pausing program"
  | .play => order "play" "Starting program"

/-! ### The commands of a dialogue -/

/-- Whatever the replies are, only such commands are asked. -/
def Only (C : String → Prop) : Dialogue α → Prop
  | done _ => True
  | ask command next => C command ∧ ∀ reply, (next reply).Only C

variable {C : String → Prop}

theorem only_of_forall (h : ∀ command, C command) (dialogue : Dialogue α) : dialogue.Only C := by
  induction dialogue with
  | done result => trivial
  | ask command next ih => exact ⟨h command, ih⟩

theorem Only.imp {C' : String → Prop} (himp : ∀ command, C command → C' command)
    {dialogue : Dialogue α} (h : dialogue.Only C) : dialogue.Only C' := by
  induction dialogue with
  | done result => trivial
  | ask command next ih => exact ⟨himp command h.1, fun reply => ih reply (h.2 reply)⟩

theorem only_judged {result : Except String β} {next : β → Dialogue α}
    (hnext : ∀ b, (next b).Only C) : (judged result next).Only C := by
  cases result with
  | error reason => trivial
  | ok b => exact hnext b

theorem only_put {command : String} {judge : String → Except String β} {next : β → Dialogue α}
    (hcommand : C command) (hnext : ∀ b, (next b).Only C) : (put command judge next).Only C :=
  ⟨hcommand, fun _ => only_judged hnext⟩

theorem only_andThen {next : β → Dialogue α} {dialogue : Dialogue β} (hdialogue : dialogue.Only C)
    (hnext : ∀ b, (next b).Only C) : (dialogue.andThen next).Only C := by
  induction dialogue with
  | done result => exact only_judged hnext
  | ask command rest ih => exact ⟨hdialogue.1, fun reply => ih reply (hdialogue.2 reply)⟩

end Dialogue

/-! ### A request -/

namespace Dashboard

variable {π : Type} {d : Dashboard} {p : Peer π} {link : Link π} {command : String}

/-- What becomes of a command on a line that is ready. -/
def served (d : Dashboard) (p : Peer π) (ready : π) (command : String) :
    Link π × Except String String :=
  match d.exchange p ready command with
  | (after, .ok reply) => (⟨after, true⟩, .ok reply)
  | (after, .error reason) => (⟨p.hangUp after, false⟩, .error reason)

theorem request_of_connected (h : link.connected = true) :
    d.request p link command = d.served p link.peer command := by
  unfold request
  simp only [h, if_true]
  rfl

theorem request_of_unreachable {ready : π} {reason : String} (h : link.connected = false)
    (hconnect : d.connect p link.peer = (ready, .error reason)) :
    d.request p link command = (⟨ready, false⟩, .error reason) := by
  unfold request
  simp only [h, Bool.false_eq_true, if_false, hconnect]

theorem request_of_reached {ready : π} {u : Unit} (h : link.connected = false)
    (hconnect : d.connect p link.peer = (ready, .ok u)) :
    d.request p link command = d.served p ready command := by
  unfold request
  simp only [h, Bool.false_eq_true, if_false, hconnect]
  rfl

end Dashboard

/-! ### Holding a dialogue -/

/-- A request, its answer, and the line after it. -/
structure Asked (π : Type) where
  command : String
  answer : Except String String
  link : Link π

/-- What comes of a dialogue. -/
structure Held (π α : Type) where
  link : Link π
  result : Except String α
  /-- All requests, in order. -/
  asked : List (Asked π)

/-- What comes of a dialogue, without its requests. -/
def Held.outcome {π α : Type} (h : Held π α) : Link π × Except String α := (h.link, h.result)

namespace Dashboard

variable {π α β : Type} {d : Dashboard} {p : Peer π}

/-- Make a request, and note it. -/
def noted (d : Dashboard) (p : Peer π) (link : Link π) (command : String) : Asked π :=
  ⟨command, (d.request p link command).2, (d.request p link command).1⟩

/-- Hold a dialogue. -/
def hold (d : Dashboard) (p : Peer π) : Dialogue α → Link π → Held π α
  | .done result, link => ⟨link, result, []⟩
  | .ask command next, link =>
    let asked := d.noted p link command
    match asked.answer with
    | .error reason => ⟨asked.link, .error reason, [asked]⟩
    | .ok reply =>
      let rest := d.hold p (next reply) asked.link
      { rest with asked := asked :: rest.asked }

theorem hold_done (result : Except String α) (link : Link π) :
    (d.hold p (.done result) link).outcome = (link, result) := rfl

theorem hold_put (command : String) (judge : String → Except String β)
    (next : β → Dialogue α) (link : Link π) :
    (d.hold p (.put command judge next) link).outcome
      = match d.ask p link command judge with
        | (link', .error reason) => (link', .error reason)
        | (link', .ok b) => (d.hold p (next b) link').outcome := by
  unfold Dialogue.put ask
  simp only [hold, noted]
  cases d.request p link command with
  | mk link' answer =>
    cases answer with
    | error reason => rfl
    | ok reply =>
      dsimp only
      cases judge reply <;> rfl

theorem hold_andThen (next : β → Dialogue α) (dialogue : Dialogue β) (link : Link π) :
    (d.hold p (dialogue.andThen next) link).outcome
      = match (d.hold p dialogue link).outcome with
        | (link', .error reason) => (link', .error reason)
        | (link', .ok b) => (d.hold p (next b) link').outcome := by
  induction dialogue generalizing link with
  | done result => cases result <;> rfl
  | ask command rest ih =>
    simp only [Dialogue.andThen, hold]
    cases (d.noted p link command).answer with
    | error reason => rfl
    | ok reply => exact ih reply (d.noted p link command).link

/-! ### The driver's dialogues -/

/-- A status is its dialogue. -/
theorem status_eq_hold (link : Link π) :
    d.status p link = (d.hold p Dialogue.status link).outcome := by
  -- the requests one by one: the dialogue is over at the first one that fails
  rcases h₁ : d.ask p link "robotmode" Reply.mode with ⟨link₁, reason | mode⟩
  · simp only [status, Dialogue.status, hold_put, h₁]
  rcases h₂ : d.ask p link₁ "safetystatus" Reply.safety with ⟨link₂, reason | safety⟩
  · simp only [status, Dialogue.status, hold_put, h₁, h₂]
  rcases h₃ : d.ask p link₂ "is in remote control" (Reply.flag "") with ⟨link₃, reason | remote⟩
  · simp only [status, Dialogue.status, hold_put, h₁, h₂, h₃]
  rcases h₄ : d.ask p link₃ "running" (Reply.flag "Program running:")
    with ⟨link₄, reason | running⟩
  · simp only [status, Dialogue.status, hold_put, h₁, h₂, h₃, h₄]
  rcases h₅ : d.ask p link₄ "get loaded program" Reply.loadedProgram with ⟨link₅, reason | loaded⟩
  · simp only [status, Dialogue.status, hold_put, h₁, h₂, h₃, h₄, h₅]
  · simp only [status, Dialogue.status, hold_put, hold_done, h₁, h₂, h₃, h₄, h₅]

theorem order_eq_hold (link : Link π) (command expected : String) :
    d.ask p link command (Reply.expect command expected)
      = (d.hold p (Dialogue.order command expected) link).outcome := by
  rw [Dialogue.order, hold_put]
  cases d.ask p link command (Reply.expect command expected) with
  | mk link' answer => cases answer <;> rfl

/-- Carrying out an order is its dialogue. -/
theorem perform_eq_hold (link : Link π) (order : Order) :
    d.perform p link order = (d.hold p (Dialogue.ofOrder order) link).outcome := by
  cases order with
  | run program tag =>
    rw [perform, start, Dialogue.ofOrder, hold_andThen, ← status_eq_hold]
    rcases d.status p link with ⟨link₁, reason | status⟩
    · rfl
    dsimp only
    rw [Dialogue.load]
    cases status.blocker with
    | some reason => rfl
    | none =>
      dsimp only
      rw [hold_put]
      rcases d.ask p link₁ ("load " ++ program) (Reply.judgeLoad program)
        with ⟨link₂, reason | loaded⟩
      · rfl
      exact order_eq_hold link₂ "play" "Starting program"
  | stop => exact order_eq_hold link "stop" "Stopped"
  | pause => exact order_eq_hold link "pause" "Pausing program"
  | play => exact order_eq_hold link "play" "Starting program"

/-! ### Calls of the driver -/

/-- What every request of such a command keeps is kept by a dialogue that asks no others, and what
holds of every such request holds of all that is asked in it. -/
theorem hold_only {C : String → Prop} {I : Link π → Prop} {P : Asked π → Prop}
    (hstep : ∀ link command, C command → I link →
      I (d.noted p link command).link ∧ P (d.noted p link command))
    {dialogue : Dialogue α} (honly : dialogue.Only C) {link : Link π} (h : I link) :
    I (d.hold p dialogue link).link ∧ ∀ asked ∈ (d.hold p dialogue link).asked, P asked := by
  induction dialogue generalizing link with
  | done result => exact ⟨h, fun asked hmem => absurd hmem List.not_mem_nil⟩
  | ask command next ih =>
    obtain ⟨hlink, hasked⟩ := hstep link command honly.1 h
    rw [hold]
    cases (d.noted p link command).answer with
    | error reason => exact ⟨hlink, fun asked hmem => List.mem_singleton.mp hmem ▸ hasked⟩
    | ok reply =>
      obtain ⟨hlast, hrest⟩ := ih reply (honly.2 reply) hlink
      exact ⟨hlast, List.forall_mem_cons.mpr ⟨hasked, hrest⟩⟩

/-- What every request keeps is kept by a dialogue, and what holds of every request holds of all
that is asked in it. -/
theorem hold_induction {I : Link π → Prop} {P : Asked π → Prop}
    (hstep : ∀ link command, I link →
      I (d.noted p link command).link ∧ P (d.noted p link command))
    (dialogue : Dialogue α) {link : Link π} (h : I link) :
    I (d.hold p dialogue link).link ∧ ∀ asked ∈ (d.hold p dialogue link).asked, P asked :=
  hold_only (C := fun _ => True) (fun link command _ => hstep link command)
    (Dialogue.only_of_forall (fun _ => trivial) dialogue) h

end Dashboard

/-- What a driver can be called for. -/
inductive DriverCall where
  | perform (order : Order)
  | status
deriving DecidableEq

namespace Dashboard

variable {π : Type} {d : Dashboard} {p : Peer π}

/-- The line after a call, and the requests that were made. -/
def call (d : Dashboard) (p : Peer π) (link : Link π) : DriverCall → Link π × List (Asked π)
  | .perform order => ((d.perform p link order).1, (d.hold p (.ofOrder order) link).asked)
  | .status => ((d.status p link).1, (d.hold p .status link).asked)

/-- The line after calls, one after the other, and the requests that were made. -/
def callAll (d : Dashboard) (p : Peer π) (link : Link π) :
    List DriverCall → Link π × List (Asked π)
  | [] => (link, [])
  | c :: calls =>
    let called := d.call p link c
    let rest := d.callAll p called.1 calls
    (rest.1, called.2 ++ rest.2)

theorem call_induction {I : Link π → Prop} {P : Asked π → Prop}
    (hstep : ∀ link command, I link →
      I (d.noted p link command).link ∧ P (d.noted p link command))
    (c : DriverCall) {link : Link π} (h : I link) :
    I (d.call p link c).1 ∧ ∀ asked ∈ (d.call p link c).2, P asked := by
  cases c with
  | perform order =>
    rw [call, perform_eq_hold]
    exact hold_induction hstep (.ofOrder order) h
  | status =>
    rw [call, status_eq_hold]
    exact hold_induction hstep .status h

/-- What every request keeps is kept by any calls, and what holds of every request holds of all that
is asked in them. -/
theorem callAll_induction {I : Link π → Prop} {P : Asked π → Prop}
    (hstep : ∀ link command, I link →
      I (d.noted p link command).link ∧ P (d.noted p link command))
    (calls : List DriverCall) {link : Link π} (h : I link) :
    I (d.callAll p link calls).1 ∧ ∀ asked ∈ (d.callAll p link calls).2, P asked := by
  induction calls generalizing link with
  | nil => exact ⟨h, fun asked hmem => absurd hmem List.not_mem_nil⟩
  | cons c calls ih =>
    obtain ⟨hlink, hasked⟩ := call_induction hstep c h
    obtain ⟨hlast, hrest⟩ := ih hlink
    refine ⟨hlast, fun asked hmem => ?_⟩
    rcases List.mem_append.mp hmem with hmem | hmem
    · exact hasked asked hmem
    · exact hrest asked hmem

end Dashboard

end Autosampler

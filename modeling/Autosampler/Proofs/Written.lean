import Autosampler.Proofs.FileNames
import Autosampler.Proofs.InStep
import Autosampler.Station

/-!
# What is written to the dashboard

An operator's words reach the robot in one place: the name of a free program stands in the command
that loads it.  So it matters that no name is more than one command, whoever gave it and whatever
the changer knows.  What goes out is noted on the line itself, so that nothing can be written behind
the back of the dialogues.

* `Order.Clean`, `Action.Asks` — orders for programs with clean names, and actions with such orders;
* `Changer.clean_plan`, `Changer.asks_command`, `Changer.asks_resume` — there are no others;
* `fixedCommands`, `Harmless` — the commands that may be written;
* `Peer.noting`, `Dashboard.request_notes` — what goes out on the line;
* `Dashboard.start_notes`, `Dashboard.perform_harmless` — what is written for an order;
* `Incident`, `Rig.live`, `Rig.Keeps` — the life of a station, and what it keeps;
* `operators_cannot_inject` — all that is asked and all that is written.
-/

namespace Autosampler

/-! ### The programs that a robot is asked for -/

/-- The order is not for a program, or for one with a clean name. -/
def Order.Clean : Order → Prop
  | .run name _ => Program.CleanName name.toList
  | _ => True

/-- What is asked of the robot is such. -/
def Action.Asks {α : Type} (P : Order → Prop) : Action α → Prop
  | .done _ _ => True
  | .ask _ order _ => P order

namespace Action

variable {α β δ : Type} {P : Order → Prop} {action : Action α}

theorem asks_map (f : α → β) (h : action.Asks P) : (action.map f).Asks P := by
  cases action with
  | done c result => trivial
  | ask c order next => exact h

theorem Asks.of_mem_orders {answer : Order → Answer} {order : Order} (h : action.Asks P)
    (hmem : order ∈ (action.carryOut answer).orders) : P order := by
  cases action with
  | done c result => exact absurd hmem List.not_mem_nil
  | ask c asked next => exact List.mem_singleton.mp hmem ▸ h

/-- What such orders keep of a device is kept by the action. -/
theorem Asks.perform {hardware : Hardware δ} {I : δ → Prop} {device : δ} (h : action.Asks P)
    (hkeep : ∀ order device, P order → I device → I (hardware.perform device order).1)
    (hdevice : I device) : I (action.perform hardware device).1 := by
  cases action with
  | done c result => exact hdevice
  | ask c order next => exact hkeep order device h hdevice

end Action

/-- If there is a result, it has the property. -/
def Yields {ε α : Type} (P : α → Prop) (result : Except ε α) : Prop := ∀ a, result = .ok a → P a

section Yields

variable {ε α β : Type} {P : α → Prop}

theorem yields_error {e : ε} : Yields P (.error e) := nofun

theorem yields_ok {a : α} (h : P a) : Yields P (.ok a : Except ε α) := by
  rintro _ ⟨⟩
  exact h

theorem yields_bind {result : Except ε β} {next : β → Except ε α} (h : ∀ b, Yields P (next b)) :
    Yields P (result >>= next) := by
  cases result with
  | error e => exact yields_error
  | ok b => exact h b

theorem yields_map_some {result : Except ε α} (h : Yields P result) :
    Yields (fun found => ∀ a ∈ found, P a) (result.map some) := by
  cases result with
  | error e => exact yields_error
  | ok a =>
    refine yields_ok fun b hb => ?_
    rw [← Option.some.inj hb]
    exact h a rfl

end Yields

/-- The plan is for a program with a clean name. -/
def Plan.Clean (p : Plan) : Prop := Program.CleanName p.program.fileName.toList

theorem Plan.clean_of_own {p : Plan} (h : p.program.Own) : p.Clean := Program.cleanName_fileName h

namespace Changer

variable (c : Changer) (id name : String)

theorem clean_planLoad : Yields Plan.Clean c.planLoad := by
  refine yields_bind fun _ => ?_
  split
  · exact yields_error
  · exact yields_ok (Plan.clean_of_own trivial)

theorem clean_planUnload : Yields Plan.Clean (c.planUnload id) := by
  refine yields_bind fun _ => ?_
  split
  · exact yields_error
  · exact yields_bind fun _ => yields_ok (Plan.clean_of_own trivial)

theorem clean_planScan : Yields Plan.Clean c.planScan :=
  yields_bind fun _ => yields_ok (Plan.clean_of_own trivial)

theorem clean_planMount : Yields Plan.Clean (c.planMount id) := by
  refine yields_bind fun _ => yields_bind fun _ => ?_
  split
  · exact yields_ok (Plan.clean_of_own trivial)
  split
  · exact yields_error
  split
  · exact yields_error
  · exact yields_bind fun _ => yields_ok (Plan.clean_of_own trivial)

theorem clean_planUnmount : Yields Plan.Clean c.planUnmount := by
  refine yields_bind fun _ => ?_
  split
  · exact yields_bind fun _ => yields_ok (Plan.clean_of_own trivial)
  · exact yields_error

theorem clean_planNext : Yields Plan.Clean c.planNext.2 := by
  unfold planNext
  split
  · exact yields_error
  dsimp only
  split
  · exact yields_error
  · exact clean_planMount _ _

/-- Here a name is an operator's, and the check of names is all that stands before the robot. -/
theorem clean_planRun : Yields Plan.Clean (c.planRun name) := by
  unfold planRun
  split
  · split
    · rename_i program hnamed
      obtain ⟨rfl, hclean⟩ := Program.named_eq_ok_iff.mp hnamed
      refine yields_ok ?_
      rw [Plan.Clean, Program.fileName, Text.trimmed, String.toList_ofList]
      exact hclean
    · exact yields_error
  · exact yields_error

/-- Whatever the command and the changer are, a plan is for a program with a clean name. -/
theorem clean_plan (command : Command) :
    Yields (fun found => ∀ p ∈ found, Plan.Clean p) (c.plan command).2 := by
  cases command with
  | load => exact yields_map_some c.clean_planLoad
  | unload id => exact yields_map_some (c.clean_planUnload id)
  | scan => exact yields_map_some c.clean_planScan
  | mount id => exact yields_map_some (c.clean_planMount id)
  | unmount => exact yields_map_some c.clean_planUnmount
  | next => exact yields_map_some c.clean_planNext
  | runProgram name => exact yields_map_some (c.clean_planRun name)
  | getState | stop | pause | play | reset =>
    exact yields_ok fun p hp => absurd hp (Option.not_mem_none p)

variable {c}

theorem asks_execute {p : Plan} (h : p.Clean) : (c.execute p).Asks Order.Clean := by
  unfold execute
  split
  · trivial
  · exact h

theorem asks_command (command : Command) : (c.command command).Asks Order.Clean := by
  have hplan := c.clean_plan command
  cases command with
  | stop | pause | play => trivial
  | reset => exact Program.cleanName_fileName (p := .reset) trivial
  | _ =>
    simp only [Changer.command]
    split
    · trivial
    · trivial
    · rename_i heq
      rw [heq] at hplan
      exact Action.asks_map _ (asks_execute (hplan _ rfl _ rfl))

theorem asks_resume (id : String) : (c.resume id).Asks Order.Clean := by
  unfold resume
  split
  · split
    · trivial
    · rename_i slot _
      exact Program.cleanName_fileName (p := .mount slot) trivial
  · trivial

end Changer

/-! ### What goes out on the line -/

/-- The commands that are the same for all programs. -/
def fixedCommands : List String :=
  ["robotmode", "safetystatus", "is in remote control", "running", "get loaded program", "play",
   "stop", "pause"]

/-- A fixed command, or the command to load a program with a clean name. -/
def Harmless (text : String) : Prop :=
  text ∈ fixedCommands ∨ ∃ name : String, Program.CleanName name.toList ∧ text = "load " ++ name

/-- A harmless text is one command line. -/
theorem commandLines_of_harmless {text : String} (h : Harmless text) :
    Desk.commandLines text = [text] := by
  refine Desk.commandLines_of_single ?_
  rcases h with hfixed | ⟨name, hclean, rfl⟩
  · exact (by decide : ∀ text ∈ fixedCommands, '\n' ∉ text.toList) text hfixed
  · intro hmem
    rw [String.toList_append] at hmem
    rcases List.mem_append.mp hmem with hmem | hmem
    · exact absurd hmem (by decide)
    · cases hclean.control '\n' hmem

namespace Dialogue

theorem only_status : status.Only (· ∈ fixedCommands) :=
  only_put (by decide) fun _ => only_put (by decide) fun _ => only_put (by decide) fun _ =>
    only_put (by decide) fun _ => only_put (by decide) fun _ => trivial

theorem only_order {command expected : String} (h : command ∈ fixedCommands) :
    (order command expected).Only (· ∈ fixedCommands) := only_put h fun _ => trivial

theorem only_load {name : String} (hname : Program.CleanName name.toList) (status : RobotStatus) :
    (load name status).Only Harmless := by
  unfold load
  split
  · trivial
  · exact only_put (.inr ⟨name, hname, rfl⟩) fun _ =>
      (only_order (by decide)).imp fun _ => Or.inl

/-- A clean order needs harmless commands only. -/
theorem only_ofOrder {order : Order} (h : order.Clean) : (ofOrder order).Only Harmless := by
  cases order with
  | run name tag => exact only_andThen (only_status.imp fun _ => Or.inl) (only_load h)
  | stop | pause | play => exact (only_order (by decide)).imp fun _ => Or.inl

end Dialogue

/-- A peer that notes what is sent to it. -/
def Peer.noting {π : Type} (p : Peer π) : Peer (π × List String) where
  contact side limit := (((p.contact side.1 limit).1, side.2), (p.contact side.1 limit).2)
  send side text := (((p.send side.1 text).1, side.2 ++ [text]), (p.send side.1 text).2)
  receive side limit := (((p.receive side.1 limit).1, side.2), (p.receive side.1 limit).2)
  hangUp side := (p.hangUp side.1, side.2)
  pause side span := (p.pause side.1 span, side.2)

namespace Dashboard

variable {π : Type} (d : Dashboard) (p : Peer π) (link : Link (π × List String))
  (side : π × List String) (command : String)

/-! ### What a request sends -/

theorem readReply_notes : (d.readReply p.noting side).1.2 = side.2 := by
  have hnotes : (p.noting.receive side d.timeout).1.2 = side.2 := rfl
  unfold readReply
  split <;> rename_i hreceive <;> rw [hreceive] at hnotes <;> exact hnotes

theorem openLine_notes : (d.openLine p.noting side).1.2 = side.2 := by
  have hnotes : (p.noting.contact side d.timeout).1.2 = side.2 := rfl
  unfold openLine
  split <;> rename_i reached hcontact <;> rw [hcontact] at hnotes
  · exact hnotes
  · exact hnotes
  · have hgreeting := d.readReply_notes p reached
    split <;> rename_i hread <;> rw [hread] at hgreeting <;> exact hgreeting.trans hnotes

theorem connectFrom_notes (attempt : Nat) : (d.connectFrom p.noting attempt side).1.2 = side.2 := by
  fun_induction Dashboard.connectFrom d p.noting attempt side with
  | case1 attempt side reached result hopen => rw [← d.openLine_notes p side, hopen]
  | case2 attempt side failed reason hopen hallows hleft ih =>
    have hpaused : (p.noting.pause failed (d.retry.delay attempt)).2 = failed.2 := rfl
    rw [ih, hpaused, ← d.openLine_notes p side, hopen]
  | case3 attempt side failed reason hopen hallows => rw [← d.openLine_notes p side, hopen]

theorem exchange_notes : (d.exchange p.noting side command).1.2 = side.2 ++ [command] := by
  have hnotes : (p.noting.send side command).1.2 = side.2 ++ [command] := rfl
  unfold exchange
  split <;> rename_i asked _ hsend <;> rw [hsend] at hnotes
  · exact hnotes
  · exact (d.readReply_notes p asked).trans hnotes

theorem served_notes : (d.served p.noting side command).1.peer.2 = side.2 ++ [command] := by
  have hnotes := d.exchange_notes p side command
  unfold served
  rcases hexchange : d.exchange p.noting side command with ⟨asked, reason | reply⟩ <;>
    rw [hexchange] at hnotes <;> exact hnotes

/-- A request sends its command, or no line could be opened for it. -/
theorem request_notes :
    (d.request p.noting link command).1.peer.2 = link.peer.2 ++ [command] ∨
      link.connected = false ∧ (d.request p.noting link command).1.peer.2 = link.peer.2 := by
  cases hopen : link.connected with
  | true =>
    rw [request_of_connected hopen]
    exact .inl (d.served_notes p link.peer command)
  | false =>
    have hopened : (d.connect p.noting link.peer).1.2 = link.peer.2 :=
      d.connectFrom_notes p link.peer 0
    rcases hconnect : d.connect p.noting link.peer with ⟨ready, reason | _⟩ <;>
      rw [hconnect] at hopened
    · rw [request_of_unreachable hopen hconnect]
      exact .inr ⟨rfl, hopened⟩
    · rw [request_of_reached hopen hconnect, ← hopened]
      exact .inl (d.served_notes p ready command)

variable {d p link command} {α : Type}

theorem ask_fst {σ : Type} {p : Peer σ} {link : Link σ} (judge : String → Except String α) :
    (d.ask p link command judge).1 = (d.request p link command).1 := by
  unfold ask
  split <;> rename_i hrequest <;> rw [hrequest]

/-- The line is open after a good reply. -/
theorem connected_of_ask {σ : Type} {p : Peer σ} {link link' : Link σ}
    {judge : String → Except String α} {result : α}
    (h : d.ask p link command judge = (link', .ok result)) : link'.connected = true := by
  unfold ask request at h
  generalize (if link.connected then (link.peer, .ok ()) else d.connect p link.peer) = ready at h
  obtain ⟨ready, reason | _⟩ := ready
  · cases h
  dsimp only at h
  rcases hexchange : d.exchange p ready command with ⟨asked, reason | reply⟩ <;> rw [hexchange] at h
  · cases h
  · rw [← (Prod.mk.inj h).1]

theorem connected_of_status {σ : Type} {p : Peer σ} {link link' : Link σ} {status : RobotStatus}
    (h : d.status p link = (link', .ok status)) : link'.connected = true := by
  unfold Dashboard.status at h
  split at h
  · cases h
  split at h
  · cases h
  split at h
  · cases h
  split at h
  · cases h
  split at h
  · cases h
  · rename_i hlast
    cases h
    exact connected_of_ask hlast

/-- On an open line a command is sent, whatever becomes of it. -/
theorem ask_notes_of_connected (hopen : link.connected = true) (command : String)
    (judge : String → Except String α) :
    (d.ask p.noting link command judge).1.peer.2 = link.peer.2 ++ [command] := by
  rw [ask_fst]
  rcases d.request_notes p link command with hsent | ⟨hclosed, -⟩
  · exact hsent
  · rw [hopen] at hclosed
    cases hclosed

/-! ### What an order sends -/

/-- Of such commands, some were sent between two moments. -/
def Sent (C : String → Prop) (before after : Link (π × List String)) : Prop :=
  ∃ texts, after.peer.2 = before.peer.2 ++ texts ∧ ∀ text ∈ texts, C text

theorem sent_of_only {C : String → Prop} {dialogue : Dialogue α} (honly : dialogue.Only C) :
    Sent C link (d.hold p.noting dialogue link).link := by
  refine (hold_only (I := Sent C link) (P := fun _ => True) (fun before command hcommand h => ?_)
    honly ⟨[], (List.append_nil _).symm, nofun⟩).1
  obtain ⟨texts, htexts, hall⟩ := h
  refine ⟨?_, trivial⟩
  rcases d.request_notes p before command with hsent | ⟨-, hsame⟩
  · refine ⟨texts ++ [command], ?_, ?_⟩
    · rw [noted, hsent, htexts, List.append_assoc]
    · simpa [or_imp, forall_and] using ⟨hall, hcommand⟩
  · exact ⟨texts, hsame.trans htexts, hall⟩

/-- What holds of all that is noted still holds if it holds of what is sent. -/
theorem Sent.forall_noted {C : String → Prop} {before after : Link (π × List String)}
    (h : Sent C before after) (hbefore : ∀ text ∈ before.peer.2, C text) :
    ∀ text ∈ after.peer.2, C text := by
  obtain ⟨texts, htexts, hall⟩ := h
  rw [htexts]
  exact List.forall_mem_append.mpr ⟨hbefore, hall⟩

/-- The commands that load a program, after a look at the status. -/
def loadsAfter (name : String) : Except String RobotStatus → List String
  | .ok status => if status.blocker = none then ["load " ++ name] else []
  | .error _ => []

theorem load_not_mem_fixedCommands (name : String) : "load " ++ name ∉ fixedCommands := by
  intro hmem
  have hhead : ("load " ++ name).toList.head? = some 'l' := by
    rw [String.toList_append]
    rfl
  exact (by decide : ∀ text ∈ fixedCommands, text.toList.head? ≠ some 'l') _ hmem hhead

theorem filter_fixed {texts : List String} (h : ∀ text ∈ texts, text ∈ fixedCommands) :
    texts.filter (· ∉ fixedCommands) = [] := by
  rw [List.filter_eq_nil_iff]
  exact fun text hmem => by simpa using h text hmem

/-- To start a program, its load command is sent once if the status allows it, and not at all
otherwise; the other commands are fixed. -/
theorem start_notes (d : Dashboard) (p : Peer π) (link : Link (π × List String)) (name : String) :
    ∃ texts, (d.start p.noting link name).1.peer.2 = link.peer.2 ++ texts ∧
      texts.filter (· ∉ fixedCommands) = loadsAfter name (d.status p.noting link).2 := by
  have hstatus : Sent (· ∈ fixedCommands) link (d.status p.noting link).1 := by
    rw [status_eq_hold]
    exact sent_of_only Dialogue.only_status
  obtain ⟨asked, hasked, hfixed⟩ := hstatus
  unfold start
  rcases hreport : d.status p.noting link with ⟨link₁, reason | status⟩ <;> rw [hreport] at hasked
  · exact ⟨asked, hasked, filter_fixed hfixed⟩
  dsimp only [loadsAfter]
  split
  · rename_i reason hblocker
    rw [hblocker, if_neg (Option.some_ne_none reason)]
    exact ⟨asked, hasked, filter_fixed hfixed⟩
  rename_i hblocker
  rw [if_pos hblocker]
  have hload : (d.ask p.noting link₁ ("load " ++ name) (Reply.judgeLoad name)).1.peer.2
      = link.peer.2 ++ (asked ++ ["load " ++ name]) := by
    rw [ask_notes_of_connected (connected_of_status hreport), hasked, List.append_assoc]
  have hfilter : (asked ++ ["load " ++ name]).filter (· ∉ fixedCommands) = ["load " ++ name] := by
    rw [List.filter_append, filter_fixed hfixed]
    simp [load_not_mem_fixedCommands]
  split
  · rename_i link₂ reason hloaded
    rw [hloaded] at hload
    exact ⟨_, hload, hfilter⟩
  · rename_i link₂ _ hloaded
    rw [hloaded] at hload
    refine ⟨asked ++ ["load " ++ name] ++ ["play"], ?_, ?_⟩
    · rw [ask_notes_of_connected (connected_of_ask hloaded), hload, List.append_assoc]
    · rw [List.filter_append, hfilter]
      rfl

/-- All that a clean order sends is harmless. -/
theorem perform_harmless {order : Order} (horder : order.Clean)
    (h : ∀ text ∈ link.peer.2, Harmless text) :
    ∀ text ∈ (d.perform p.noting link order).1.peer.2, Harmless text := by
  rw [perform_eq_hold]
  exact (sent_of_only (Dialogue.only_ofOrder horder)).forall_noted h

/-- So is all that a look at the status sends. -/
theorem status_harmless (h : ∀ text ∈ link.peer.2, Harmless text) :
    ∀ text ∈ (d.status p.noting link).1.peer.2, Harmless text := by
  rw [status_eq_hold]
  exact (sent_of_only (Dialogue.only_status.imp fun _ => Or.inl)).forall_noted h

end Dashboard

/-! ### Everything that is ever written -/

/-- What happens to a station. -/
inductive Incident where
  /-- An operator gives a command. -/
  | request (command : Command)
  /-- Lines of the robot change the changer in whatever way. -/
  | adjust (changer : Changer)
  /-- The mounts are started that are left waiting. -/
  | settle
  | elapse (span : Span)

namespace Rig

variable {δ : Type} {r : Rig δ} {s : Station δ} {I : δ → Prop}

/-- The station after an incident. -/
def undergo (r : Rig δ) (s : Station δ) : Incident → Station δ
  | .request command => (r.request s command).1
  | .adjust changer => s.adjust changer
  | .settle => r.settle s
  | .elapse span => r.elapse s span

/-- The station after incidents, one after the other. -/
def live (r : Rig δ) (s : Station δ) (incidents : List Incident) : Station δ :=
  incidents.foldl r.undergo s

/-- A property of a device that clean orders and looks at the status keep. -/
structure Keeps (r : Rig δ) (I : δ → Prop) : Prop where
  perform : ∀ order device, order.Clean → I device → I (r.hardware.perform device order).1
  status : ∀ device, I device → I (r.hardware.status device).1

theorem Keeps.poll (hr : r.Keeps I) (h : I s.device) : I (r.poll s).device := hr.status s.device h

theorem Keeps.deliver (hr : r.Keeps I) (count : Nat) (h : I s.device) :
    I (r.deliver count s).device := by
  induction count generalizing s with
  | zero => exact h
  | succ count ih =>
    rw [Rig.deliver]
    split
    · exact h
    · rename_i id c _
      exact ih ((Changer.asks_resume id).perform hr.perform h)

theorem Keeps.undergo (hr : r.Keeps I) (h : I s.device) (incident : Incident) :
    I (r.undergo s incident).device := by
  cases incident with
  | request command =>
    rw [Rig.undergo, Rig.request]
    split
    · exact (Changer.asks_command command).perform hr.perform h
    · exact h
  | adjust changer => exact h
  | settle =>
    have hdelivered := hr.deliver s.changer.chained.length h
    rw [Rig.undergo, Rig.settle]
    split
    · dsimp only
      split
      · exact hdelivered
      · exact hdelivered
    · exact h
  | elapse span =>
    rw [Rig.undergo, Rig.elapse]
    dsimp only
    split
    · exact hr.poll h
    · exact h

theorem Keeps.live (hr : r.Keeps I) (incidents : List Incident) (h : I s.device) :
    I (r.live s incidents).device := by
  induction incidents generalizing s with
  | nil => exact h
  | cons incident incidents ih => exact ih (hr.undergo h incident)

theorem Keeps.start (hr : r.Keeps I) {device : δ} (h : I device) (c : Changer) (clock : Span) :
    I (r.start device c clock).device := hr.status device h

end Rig

/-- A station at a dashboard that notes what is sent to it. -/
def notingRig {π : Type} (d : Dashboard) (p : Peer π) (polling : Polling) :
    Rig (Link (π × List String)) := ⟨d.hardware p.noting, polling⟩

theorem keeps_harmless {π : Type} (d : Dashboard) (p : Peer π) (polling : Polling) :
    (notingRig d p polling).Keeps fun link => ∀ text ∈ link.peer.2, Harmless text where
  perform _ _ horder h := Dashboard.perform_harmless horder h
  status _ h := Dashboard.status_harmless h

/-- **Operators cannot slip commands in.**  Whatever the changer knows and whatever an operator's
command says, the programs that the robot is asked for have clean names, for commands as for mounts
that were left waiting.  For such a name one command line is written, the one that loads the
program, if the status that is asked for before allows its start.  And whatever happens to a
station, each text that it ever writes is one line: a fixed command or the load command of a clean
name. -/
theorem operators_cannot_inject {π : Type} (d : Dashboard) (p : Peer π) (polling : Polling) :
    (∀ (c : Changer) (command : Command) (answer : Order → Answer) (name tag : String),
      Order.run name tag ∈ ((c.command command).carryOut answer).orders →
        Program.CleanName name.toList) ∧
    (∀ (c : Changer) (id : String) (answer : Order → Answer) (name tag : String),
      Order.run name tag ∈ ((c.resume id).carryOut answer).orders →
        Program.CleanName name.toList) ∧
    (∀ (link : Link (π × List String)) (name tag : String), Program.CleanName name.toList →
      Desk.commandLines ("load " ++ name) = ["load " ++ name] ∧
        ∃ texts, (d.perform p.noting link (.run name tag)).1.peer.2 = link.peer.2 ++ texts ∧
          texts.filter (· ∉ fixedCommands)
            = Dashboard.loadsAfter name (d.status p.noting link).2) ∧
    ∀ (side : π) (c : Changer) (clock : Span) (incidents : List Incident),
      let rig := notingRig d p polling
      ∀ text ∈ (rig.live (rig.start ⟨(side, []), false⟩ c clock) incidents).device.peer.2,
        Harmless text ∧ Desk.commandLines text = [text] := by
  refine ⟨fun c command answer name tag hmem => (Changer.asks_command command).of_mem_orders hmem,
    fun c id answer name tag hmem => (Changer.asks_resume id).of_mem_orders hmem,
    fun link name tag hname => ⟨commandLines_of_harmless (.inr ⟨name, hname, rfl⟩),
      Dashboard.start_notes d p link name⟩, fun side c clock incidents => ?_⟩
  intro rig text hmem
  have hkeeps : rig.Keeps fun link => ∀ text ∈ link.peer.2, Harmless text :=
    keeps_harmless d p polling
  have hharmless := hkeeps.live incidents
    (hkeeps.start (fun _ h => absurd h List.not_mem_nil) c clock) text hmem
  exact ⟨hharmless, commandLines_of_harmless hharmless⟩

/-- A blank and a newline around an operator's name are not written. -/
theorem operators_write_trimmed_name :
    let rig := notingRig nextRoom (usualHost fun _ => .done).peer
      (Polling.ofIdle (Span.ofMillis 1000))
    let s := rig.live (rig.start ⟨(⟨0, 0, [], 0, true⟩, []), false⟩ (Changer.ofSize 1) ⟨0⟩)
      [.request (.runProgram " calibrate.urp\n")]
    "load calibrate.urp" ∈ s.device.peer.2 ∧ Harmless "load calibrate.urp" ∧
      Desk.commandLines "load calibrate.urp" = ["load calibrate.urp"] ∧
      Program.CleanName "calibrate.urp".toList := by
  intro rig s
  have hwritten : "load calibrate.urp" ∈ s.device.peer.2 := by decide +kernel
  have hordered : Order.run "calibrate.urp" "run_program" ∈
      (((Changer.ofSize 1).command (.runProgram " calibrate.urp\n")).carryOut willing).orders := by
    decide +kernel
  obtain ⟨hcommand, -, -, hlines⟩ := operators_cannot_inject nextRoom
    (usualHost fun _ => .done).peer (Polling.ofIdle (Span.ofMillis 1000))
  obtain ⟨hharmless, hline⟩ := hlines _ _ _ _ _ hwritten
  exact ⟨hwritten, hharmless, hline, hcommand _ _ _ _ _ hordered⟩

end Autosampler

import Autosampler.Config.Check
import Autosampler.Operator.Session
import Autosampler.Proofs.Printing
import Autosampler.Robot.Dummy

/-!
# Who may command

Sound settings with tokens admit nobody without one of them.  What a line asks for is decided by its
text and by the tokens alone, so neither the station nor other operators can open the way for it.

* `Guarded` — tokens that admit nobody else;
* `entitled?`, `requested?` — the command that a line may ask for, and the one that the station gets;
* `verdict_of_blank`, `verdict_of_entitled`, `verdict_of_stranger` — the verdicts on a line;
* `Visit`, `Talk`, `attend` — a connection whose lines arrive while others are busy, too;
* `attend_requests`, `attend_append`, `serve_eq_attend` — what a connection comes to;
* `only_entitled_lines_command` — nobody else commands, and every line that is not blank is answered.
-/

namespace Autosampler.Operator

/-! ### Tokens -/

/-- There are tokens, and none of them is blank. -/
structure Guarded (tokens : List String) : Prop where
  nonempty : tokens ≠ []
  sound : ∀ token ∈ tokens, Text.allBlank token = false

/-- The tokens of sound settings. -/
theorem guarded_of_check {config : Config} (hc : config.check = .ok ()) (ht : config.tokens ≠ []) :
    Guarded config.tokens := by
  refine ⟨ht, fun token hmem => ?_⟩
  have hrule : (config.tokens.any Text.allBlank, ConfigFault.blankToken) ∈ config.rules := by
    simp [Config.rules]
  simpa using List.any_eq_false.mp (Config.unbroken_of_check hc hrule) token hmem

namespace Guarded

variable {tokens : List String} {shown : Option String} {token : String}

/-- Every token of the settings counts. -/
theorem ofList_tokens (h : Guarded tokens) : (TokenList.ofList tokens).tokens = tokens :=
  List.filter_eq_self.mpr fun token hmem => by rw [h.sound token hmem]; rfl

theorem check_eq_ok (h : Guarded tokens) :
    (TokenList.ofList tokens).check shown = .ok () ↔
      ∃ token, shown = some token ∧ bareToken token ∈ tokens := by
  have hsome : (TokenList.ofList tokens).isEmpty = false := by
    rw [TokenList.isEmpty, h.ofList_tokens]
    simpa using h.nonempty
  unfold TokenList.check
  rw [if_neg (by simp [hsome]), h.ofList_tokens]
  cases shown with
  | none => simp
  | some token =>
    by_cases hmem : bareToken token ∈ tokens
    · simp [hmem]
    · simp [hmem]

end Guarded

/-! ### Lines -/

/-- The command that a line is entitled to: the line is a request, and the token that it shows is
one of the tokens. -/
def entitled? (tokens : List String) (line : String) : Option Command :=
  match Request.ofText (Text.trimmed line) with
  | .ok ⟨some token, command⟩ => if bareToken token ∈ tokens then some command else none
  | _ => none

/-- The command that a line gives to the station.  A question for the state is not one. -/
def requested? (tokens : List String) (line : String) : Option Command :=
  (entitled? tokens line).filter (· ≠ .getState)

/-- The commands that a verdict gives to the station. -/
def Verdict.commands : Verdict → List Command
  | .request command => [command]
  | _ => []

section Lines

variable {tokens : List String} {line : String} {command : Command} {published : Snapshot}

theorem entitled?_eq_some :
    entitled? tokens line = some command ↔
      ∃ token, Request.ofText (Text.trimmed line) = .ok ⟨some token, command⟩ ∧
        bareToken token ∈ tokens := by
  unfold entitled?
  split
  · rename_i token other heq
    rw [heq]
    constructor
    · intro hsome
      split at hsome
      · cases hsome
        exact ⟨token, rfl, ‹_›⟩
      · cases hsome
    · rintro ⟨shown, hshown, hmem⟩
      cases hshown
      exact if_pos hmem
  · rename_i hother
    constructor
    · rintro ⟨⟩
    · rintro ⟨token, heq, -⟩
      exact absurd heq (hother token command)

theorem ofText_nothing : ∃ fault, Request.ofText (String.ofList []) = .error fault := ⟨_, rfl⟩

/-- A blank line is no request. -/
theorem entitled?_of_blank (h : Text.allBlank line = true) : entitled? tokens line = none := by
  obtain ⟨fault, hfault⟩ := ofText_nothing
  unfold entitled?
  rw [Text.trimmed, Text.trim_of_allBlank h, hfault]

theorem verdict_of_blank (h : Text.allBlank line = true) (check : Check) (published : Snapshot) :
    verdict check published line = .silent := if_pos h

theorem verdict_of_entitled (h : Guarded tokens) (hline : entitled? tokens line = some command)
    (published : Snapshot) :
    verdict (TokenList.ofList tokens).check published line
      = if command = .getState then .reply (.accepted published) else .request command := by
  have hblank : ¬Text.allBlank line = true := by
    intro hblank
    rw [entitled?_of_blank hblank] at hline
    cases hline
  obtain ⟨token, hrequest, hmem⟩ := entitled?_eq_some.mp hline
  have hcheck := h.check_eq_ok.mpr ⟨token, rfl, hmem⟩
  simp only [verdict, if_neg hblank, hrequest, hcheck]

theorem verdict_of_stranger (h : Guarded tokens) (hline : entitled? tokens line = none)
    (hblank : Text.allBlank line = false) (published : Snapshot) :
    ∃ reason, verdict (TokenList.ofList tokens).check published line = .reply (.refused reason) := by
  unfold verdict
  rw [if_neg (by simp [hblank])]
  split
  · exact ⟨_, rfl⟩
  · rename_i r hrequest
    split
    · exact ⟨_, rfl⟩
    · rename_i hcheck
      obtain ⟨token, hshown, hmem⟩ := h.check_eq_ok.mp hcheck
      have hentitled : entitled? tokens line = some r.command :=
        entitled?_eq_some.mpr ⟨token, by rw [hrequest, ← hshown], hmem⟩
      rw [hline] at hentitled
      cases hentitled

/-- The station gets the command that the line is entitled to, and no other. -/
theorem commands_verdict (h : Guarded tokens) (published : Snapshot) (line : String) :
    (verdict (TokenList.ofList tokens).check published line).commands
      = (requested? tokens line).toList := by
  cases hline : entitled? tokens line with
  | some command =>
    rw [verdict_of_entitled h hline, requested?, hline]
    by_cases hstate : command = .getState
    · simp [hstate, Verdict.commands]
    · simp [hstate, Verdict.commands, Option.filter_some]
  | none =>
    rw [requested?, hline]
    by_cases hblank : Text.allBlank line = true
    · rw [verdict_of_blank hblank]
      rfl
    · obtain ⟨reason, hverdict⟩ := verdict_of_stranger h hline (by simpa using hblank) published
      rw [hverdict]
      rfl

end Lines

/-! ### The station -/

section Stations

variable {δ : Type} {r : Rig δ} {check : Check} {s : Station δ} {tokens : List String}
  {line : String}

/-- The station after it carried out a command. -/
def obey (r : Rig δ) (s : Station δ) (command : Command) : Station δ := (r.request s command).1

theorem obey_running (r : Rig δ) (s : Station δ) (command : Command) :
    (obey r s command).running = s.running := by
  unfold obey Rig.request
  split <;> rfl

/-- A running station has an answer to every command. -/
theorem request_of_running (hs : s.running = true) (command : Command) :
    ∃ answer, (r.request s command).2 = some answer := by
  rw [Rig.request, if_pos hs]
  exact ⟨_, rfl⟩

theorem serveLine_fst (r : Rig δ) (check : Check) (s : Station δ) (line : String) :
    (serveLine r check s line).1 = (verdict check s.published line).commands.foldl (obey r) s := by
  unfold serveLine
  cases verdict check s.published line <;> rfl

theorem serveLine_running (hs : s.running = true) (check : Check) (line : String) :
    (serveLine r check s line).1.running = true := by
  rw [serveLine_fst]
  cases verdict check s.published line with
  | request command => exact (obey_running r s command).trans hs
  | _ => exact hs

/-- The response that is due to a line, given the station at that moment. -/
inductive Due (tokens : List String) (r : Rig δ) (now : Station δ) (line : String) :
    Response → Prop
  /-- The line is not entitled to a command.  It is refused, and the state is not shown. -/
  | refused {response : Response} (stranger : entitled? tokens line = none)
      (failure : response.success = false) (hidden : response.state = none) :
      Due tokens r now line response
  /-- The line asks for the state. -/
  | shown (entitled : entitled? tokens line = some .getState) :
      Due tokens r now line (.accepted now.published)
  /-- The line has a command for the station. -/
  | served {command : Command} {answer : Except Error Snapshot}
      (entitled : entitled? tokens line = some command) (orders : command ≠ .getState)
      (answered : (r.request now command).2 = some answer) :
      Due tokens r now line (responseTo (some answer))

theorem serveLine_of_blank (h : Text.allBlank line = true) :
    serveLine r check s line = (s, none) := by
  rw [serveLine, verdict_of_blank h]

theorem serveLine_snd (h : Guarded tokens) (hs : s.running = true)
    (hblank : Text.allBlank line = false) :
    ∃ response, (serveLine r (TokenList.ofList tokens).check s line).2 = some response ∧
      Due tokens r s line response := by
  unfold serveLine
  cases hline : entitled? tokens line with
  | none =>
    obtain ⟨reason, hverdict⟩ := verdict_of_stranger h hline hblank s.published
    rw [hverdict]
    exact ⟨_, rfl, .refused hline rfl rfl⟩
  | some command =>
    rw [verdict_of_entitled h hline]
    by_cases hstate : command = .getState
    · rw [if_pos hstate]
      exact ⟨_, rfl, .shown (by rw [hline, hstate])⟩
    · obtain ⟨answer, hanswer⟩ := request_of_running (r := r) hs command
      rw [if_neg hstate]
      refine ⟨responseTo (some answer), ?_, .served hline hstate hanswer⟩
      rw [← hanswer]

end Stations

/-! ### Connections -/

/-- A line of a connection, and what others do to the station before it is read. -/
structure Visit (δ : Type) where
  meanwhile : Station δ → Station δ
  line : String

/-- The line is answered. -/
def Visit.speaks {δ : Type} (visit : Visit δ) : Bool := !Text.allBlank visit.line

/-- What a connection came to: the station afterwards, the responses, and the commands that the
station got. -/
structure Talk (δ : Type) where
  station : Station δ
  responses : List Response
  commands : List Command

variable {δ : Type}

/-- Answer lines one after the other, while others are busy with the station. -/
def attend (r : Rig δ) (check : Check) (s : Station δ) : List (Visit δ) → Talk δ
  | [] => ⟨s, [], []⟩
  | visit :: rest =>
    let now := visit.meanwhile s
    let (after, response) := serveLine r check now visit.line
    let talk := attend r check after rest
    { station := talk.station
      responses := response.toList ++ talk.responses
      commands := (verdict check now.published visit.line).commands ++ talk.commands }

section Connections

variable {r : Rig δ} {check : Check} {s : Station δ} {tokens : List String}
  {before after visits : List (Visit δ)}

/-- Lines that come later are attended by the station that the earlier ones leave. -/
theorem attend_append (before after : List (Visit δ)) :
    attend r check s (before ++ after)
      = { station := (attend r check (attend r check s before).station after).station
          responses := (attend r check s before).responses
            ++ (attend r check (attend r check s before).station after).responses
          commands := (attend r check s before).commands
            ++ (attend r check (attend r check s before).station after).commands } := by
  induction before generalizing s with
  | nil => rfl
  | cons visit before ih => simp only [List.cons_append, attend, ih, List.append_assoc]

/-- What others do leaves the station running. -/
def Lasting (visits : List (Visit δ)) : Prop :=
  ∀ visit ∈ visits, ∀ s : Station δ, s.running = true → (visit.meanwhile s).running = true

theorem attend_running (hv : Lasting visits) (hs : s.running = true) :
    (attend r check s visits).station.running = true := by
  induction visits generalizing s with
  | nil => exact hs
  | cons visit rest ih =>
    obtain ⟨hfirst, hrest⟩ := List.forall_mem_cons.mp hv
    exact ih hrest (serveLine_running (hfirst s hs) check visit.line)

theorem attend_commands (h : Guarded tokens) (s : Station δ) (visits : List (Visit δ)) :
    (attend r (TokenList.ofList tokens).check s visits).commands
      = visits.filterMap fun visit => requested? tokens visit.line := by
  induction visits generalizing s with
  | nil => rfl
  | cons visit rest ih =>
    rw [List.filterMap_cons]
    simp only [attend, commands_verdict h, ih]
    cases requested? tokens visit.line <;> rfl

theorem attend_responses_length (h : Guarded tokens) (hv : Lasting visits)
    (hs : s.running = true) :
    (attend r (TokenList.ofList tokens).check s visits).responses.length
      = visits.countP Visit.speaks := by
  induction visits generalizing s with
  | nil => rfl
  | cons visit rest ih =>
    obtain ⟨hfirst, hlater⟩ := List.forall_mem_cons.mp hv
    have hnow := hfirst s hs
    have hrest := ih hlater
      (serveLine_running (r := r) hnow (TokenList.ofList tokens).check visit.line)
    simp only [attend, List.length_append, hrest]
    by_cases hblank : Text.allBlank visit.line = true
    · rw [List.countP_cons_of_neg (by simp [Visit.speaks, hblank]), serveLine_of_blank hblank]
      exact Nat.zero_add _
    · have hspeaks : Text.allBlank visit.line = false := by simpa using hblank
      obtain ⟨response, hresponse, -⟩ := serveLine_snd (r := r) h hnow hspeaks
      rw [List.countP_cons_of_pos (by simp [Visit.speaks, hspeaks]), hresponse]
      exact Nat.add_comm _ _

/-- If others are idle, the station obeys the commands of the connection one after the other. -/
theorem attend_station (hv : ∀ visit ∈ visits, visit.meanwhile = id) :
    (attend r check s visits).station = (attend r check s visits).commands.foldl (obey r) s := by
  induction visits generalizing s with
  | nil => rfl
  | cons visit rest ih =>
    obtain ⟨hidle, hlater⟩ := List.forall_mem_cons.mp hv
    simp only [attend, hidle, id_eq, List.foldl_append]
    rw [← serveLine_fst]
    exact ih hlater

/-- If others are idle, it is the connection as it is served. -/
theorem serve_eq_attend {bytes : List (List UInt8)} (hv : ∀ visit ∈ visits, visit.meanwhile = id)
    (hb : bytes.map Text.decode = visits.map fun visit => some visit.line) :
    serve r check s bytes
      = ((attend r check s visits).station, (attend r check s visits).responses, false) := by
  induction bytes generalizing s visits with
  | nil =>
    cases visits with
    | nil => rfl
    | cons visit rest => cases hb
  | cons line bytes ih =>
    cases visits with
    | nil => cases hb
    | cons visit rest =>
      obtain ⟨hline, hrest⟩ := List.cons.inj hb
      obtain ⟨hidle, hlater⟩ := List.forall_mem_cons.mp hv
      have htail := ih (s := (serveLine r check s visit.line).1) hlater hrest
      simp only [serve, hline, htail, attend, hidle, id_eq]

end Connections

/-- **Nobody else commands.**  The settings are sound and have tokens.  Lines arrive on a connection,
and before each of them others may do to the station what they like, short of stopping it.  The
station gets, in order, the commands of those lines that show one of the tokens.  Every line that is
not blank gets one response on one line, in order.  A line that is not entitled to a command is
refused and is not shown the state.  If others are idle, this is the connection as it is served, and
the station does what these commands tell it. -/
theorem only_entitled_lines_command {config : Config} (hc : config.check = .ok ())
    (ht : config.tokens ≠ []) (r : Rig δ) {s : Station δ} (hs : s.running = true)
    {visits : List (Visit δ)} (hv : Lasting visits) :
    let check := (TokenList.ofList config.tokens).check
    let talk := attend r check s visits
    talk.commands = visits.filterMap (fun visit => requested? config.tokens visit.line) ∧
      talk.responses.length = visits.countP Visit.speaks ∧
      (∀ before visit after, visits = before ++ visit :: after → visit.speaks = true →
        let now := visit.meanwhile (attend r check s before).station
        ∃ response, talk.responses[before.countP Visit.speaks]? = some response ∧
          Due config.tokens r now visit.line response ∧ '\n' ∉ response.toJson.print) ∧
      ∀ bytes : List (List UInt8), (∀ visit ∈ visits, visit.meanwhile = id) →
        bytes.map Text.decode = visits.map (fun visit => some visit.line) →
        serve r check s bytes = (talk.commands.foldl (obey r) s, talk.responses, false) := by
  intro check talk
  have h := guarded_of_check hc ht
  have hcommands := attend_commands (r := r) h s visits
  have hlength := attend_responses_length (r := r) h hv hs
  refine ⟨hcommands, hlength, ?_, ?_⟩
  · intro before visit after hsplit hspeaks now
    have hbefore : Lasting before := fun earlier hearlier =>
      hv earlier (by rw [hsplit]; exact List.mem_append_left _ hearlier)
    have hrunning : now.running = true :=
      hv visit (by rw [hsplit]; exact List.mem_append_right _ List.mem_cons_self) _
        (attend_running hbefore hs)
    obtain ⟨response, hresponse, hdue⟩ :=
      serveLine_snd (r := r) h hrunning (by simpa [Visit.speaks] using hspeaks)
    refine ⟨response, ?_, hdue, response.toJson.newline_not_mem_print⟩
    have hplace := attend_responses_length (r := r) h hbefore hs
    have htalk : talk.responses = (attend r check s before).responses
        ++ (attend r check (attend r check s before).station (visit :: after)).responses := by
      show (attend r check s visits).responses = _
      rw [hsplit, attend_append]
    rw [htalk, ← hplace, List.getElem?_append_right (Nat.le_refl _), Nat.sub_self]
    simp only [attend]
    rw [hresponse]
    rfl
  · intro bytes hidle hbytes
    rw [serve_eq_attend hidle hbytes, attend_station hidle]

/-- Settings with one token. -/
def oneToken : Config := { tokens := ["secret"] }

/-- A dummy robot, looked at every second. -/
def dummyRig : Rig Dummy := ⟨Dummy.hardware, Polling.ofIdle (Span.ofMillis 1000)⟩

/-- A station with one slot. -/
def oneSlot : Station Dummy := dummyRig.start {} (Changer.ofSize 1) ⟨0⟩

/-- One line is entitled to a command, and one to see the state.  The others show no token: the
token is a number, or there are two members for it, or there is none. -/
def triedLines : List (Visit Dummy) :=
  [⟨id, "\x7b\"token\":\"Bearer secret\",\"cmd\":\"load\"\x7d"⟩, ⟨id, " \r"⟩,
   ⟨Station.publish, "\x7b\"token\":7,\"cmd\":\"stop\"\x7d"⟩,
   ⟨id, "\x7b\"token\":\"secret\",\"token\":\"secret\",\"cmd\":\"reset\"\x7d"⟩,
   ⟨id, "\x7b\"cmd\":\"unmount\"\x7d"⟩, ⟨id, "\x7b\"token\":\"secret\",\"cmd\":\"get_state\"\x7d"⟩]

theorem only_entitled_lines_command_tried :
    oneToken.check = .ok () ∧ oneToken.tokens ≠ [] ∧ oneSlot.running = true ∧
      Lasting triedLines ∧
      let talk := attend dummyRig (TokenList.ofList oneToken.tokens).check oneSlot triedLines
      talk.commands = [.load] ∧ talk.responses.length = 5 ∧
        ∃ response, talk.responses[1]? = some response ∧ response.success = false ∧
          response.state = none := by
  have hfault : oneToken.fault? = none := by decide +kernel
  have hc : oneToken.check = .ok () := by rw [Config.check, hfault]
  have ht : oneToken.tokens ≠ [] := by decide
  have hs : oneSlot.running = true := rfl
  have hv : Lasting triedLines := by
    intro visit hmem s hrunning
    simp only [triedLines, List.mem_cons, List.not_mem_nil, or_false] at hmem
    rcases hmem with rfl | rfl | rfl | rfl | rfl | rfl <;> exact hrunning
  obtain ⟨hcommands, hlength, hdue, -⟩ := only_entitled_lines_command hc ht dummyRig hs hv
  refine ⟨hc, ht, hs, hv, hcommands.trans (by decide +kernel), hlength.trans (by decide +kernel), ?_⟩
  obtain ⟨response, hresponse, hline, -⟩ := hdue (triedLines.take 2) _ (triedLines.drop 3) rfl rfl
  have hstranger : entitled? oneToken.tokens "\x7b\"token\":7,\"cmd\":\"stop\"\x7d" = none := by
    decide +kernel
  refine ⟨response, hresponse, ?_⟩
  cases hline with
  | refused _ failure hidden => exact ⟨failure, hidden⟩
  | shown entitled => exact absurd (hstranger.symm.trans entitled) (by simp)
  | served entitled _ _ => exact absurd (hstranger.symm.trans entitled) (by simp)

end Autosampler.Operator

import Autosampler.Proofs.Consistency

/-!
# Refusals that come late

Between the announcement of a plan and the robot's refusal, messages go on changing the changer.
The refusal restores the state that was remembered before, and leaves the books as they are by
then.  Only the number of good acknowledgements in between matters.

* `Changer.listen`, `acknowledgements` — messages one after the other, and the good
  acknowledgements among them;
* `Changer.listen_mounted_of_finishing` and its kin — the mounted sample after the messages, by the
  state in which they started;
* `Changer.Agrees` — rest state and mounted sample say the same;
* `Overtaken` — the counts for which a refusal comes too late;
* `Reached` — runs in which refusals come after messages, but in time;
* `refusal_agrees_iff` — after a refusal the two agree unless it came too late.
-/

namespace Autosampler

/-- The number of good acknowledgements in a list of messages. -/
def acknowledgements (messages : List (Message × Option String)) : Nat :=
  messages.countP fun heard => heard.1 = .ok

theorem acknowledgements_cons_ok (label : Option String)
    (messages : List (Message × Option String)) :
    acknowledgements ((.ok, label) :: messages) = acknowledgements messages + 1 :=
  List.countP_cons_of_pos rfl

theorem acknowledgements_cons_of_ne {message : Message} (h : message ≠ .ok)
    (label : Option String) (messages : List (Message × Option String)) :
    acknowledgements ((message, label) :: messages) = acknowledgements messages :=
  List.countP_cons_of_neg (by simpa using h)

namespace Changer

variable {c : Changer} {label : Option String} {id next : String}

/-! ### Messages in a row -/

/-- The changer after a list of messages, each with the label that the camera would show. -/
def listen (c : Changer) : List (Message × Option String) → Changer
  | [] => c
  | (message, label) :: messages => (c.hear message label).listen messages

/-- Out of transit, no message touches the mounted sample or brings the gripper into play. -/
theorem hear_of_not_transit (h : Consistent c) (ht : c.state.inTransit = false)
    (message : Message) (label : Option String) :
    (c.hear message label).mounted = c.mounted ∧
      (c.hear message label).state.inTransit = false := by
  by_cases hm : message = .ok
  · subst hm
    have hack := acknowledge_mounted_of_not_transit ht
    have hupshot := h.acknowledged label
    generalize c.hear .ok label = after at hupshot
    cases hupshot with
    | rest _ => exact ⟨rfl, ht⟩
    | early _ => exact ⟨rfl, ht⟩
    | switch hs _ => rw [hs] at ht; cases ht
    | home _ _ _ _ => exact ⟨hack, rfl⟩
    | homeMounted _ _ => exact ⟨hack, rfl⟩
  · refine ⟨?_, ?_⟩
    · obtain ⟨machine, magazine, pending, told, heq⟩ := hear_of_ne_ok h.settled hm label
      rw [heq]
    · by_cases hscan : c.state.scanning = true
      · have hafter := hear_scanning hscan hm label
        cases hs : (c.hear message label).state <;> rw [hs] at hafter <;> first | rfl | cases hafter
      · obtain ⟨magazine, pending, heq⟩ :=
          hear_of_not_scanning (by simpa using hscan) hm label
        rw [heq]
        exact ht

theorem listen_mounted_of_not_transit (h : Consistent c) (ht : c.state.inTransit = false)
    (messages : List (Message × Option String)) : (c.listen messages).mounted = c.mounted := by
  induction messages generalizing c with
  | nil => rfl
  | cons heard messages ih =>
    obtain ⟨hmounted, htransit⟩ := hear_of_not_transit h ht heard.1 heard.2
    exact (ih (h.hear heard.1 heard.2) htransit).trans hmounted

/-- The first good acknowledgement of a program that ends at rest does its books, and the later ones
do nothing. -/
theorem listen_mounted_of_finishing {rest : State} (h : Consistent c)
    (hscan : c.state.scanning = false) (hrest : rest.inTransit = false)
    (ht : Event.programFinished.target? c.state = some rest)
    (messages : List (Message × Option String)) :
    (c.listen messages).mounted
      = if acknowledgements messages = 0 then c.mounted else c.acknowledge.mounted := by
  induction messages generalizing c with
  | nil => rfl
  | cons heard messages ih =>
    obtain ⟨message, label⟩ := heard
    have hafter := h.hear message label
    rw [listen]
    by_cases hm : message = .ok
    · subst hm
      have hsettled : rest ≠ .homeSwitch := by
        rintro rfl
        cases hrest
      have hok := hear_ok_of_target h.tag h.settled ht hsettled label
      rw [listen_mounted_of_not_transit hafter (by rw [hok]; exact hrest), hok,
        acknowledgements_cons_ok, if_neg (Nat.succ_ne_zero _)]
      rfl
    · obtain ⟨magazine, pending, heq⟩ := hear_of_not_scanning hscan hm label
      rw [acknowledgements_cons_of_ne hm]
      rw [heq] at hafter ⊢
      -- neither magazine nor pending program counts for what a mount or an unmount leaves
      rw [ih hafter hscan ht, acknowledge_mounted, acknowledge_mounted]
      rfl

/-- The first good acknowledgement of a mount brings its sample to the measurement position. -/
theorem listen_mounted_of_mounting (h : Consistent c) (hs : c.state = .mounting)
    (hid : c.machine.mountTarget = some id) (messages : List (Message × Option String)) :
    (c.listen messages).mounted = if acknowledgements messages = 0 then none else some id := by
  have hfinished : Event.programFinished.target? c.state = some .homeMounted := by rw [hs]; decide
  rw [listen_mounted_of_finishing h (by rw [hs]; rfl) rfl hfinished, acknowledge_mounted, hs, hid,
    h.mounted_eq_none (by rw [hs]; rfl)]

/-- The first good acknowledgement of an unmount empties the measurement position. -/
theorem listen_mounted_of_unmounting (h : Consistent c) (hs : c.state = .unmounting)
    (messages : List (Message × Option String)) :
    (c.listen messages).mounted = if acknowledgements messages = 0 then c.mounted else none := by
  have hfinished : Event.programFinished.target? c.state = some .home := by rw [hs]; decide
  rw [listen_mounted_of_finishing h (by rw [hs]; rfl) rfl hfinished, acknowledge_mounted, hs]

/-- The first good acknowledgement of a switch empties the measurement position, the second one
counts for the mount of the next sample. -/
theorem listen_mounted_of_switch (h : Consistent c) (hs : c.state = .unmountingSwitch)
    (hn : c.machine.nextSample = some next) (messages : List (Message × Option String)) :
    (c.listen messages).mounted
      = match acknowledgements messages with
        | 0 => c.mounted
        | 1 => none
        | _ + 2 => some next := by
  induction messages generalizing c with
  | nil => rfl
  | cons heard messages ih =>
    obtain ⟨message, label⟩ := heard
    have hafter := h.hear message label
    rw [listen]
    by_cases hm : message = .ok
    · subst hm
      rw [hear_ok_of_switch h.tag hs hn] at hafter ⊢
      rw [listen_mounted_of_mounting hafter rfl rfl, acknowledgements_cons_ok]
      cases acknowledgements messages with
      | zero => rfl
      | succ count => rfl
    · obtain ⟨magazine, pending, heq⟩ :=
        hear_of_not_scanning (c := c) (by rw [hs]; rfl) hm label
      rw [acknowledgements_cons_of_ne hm]
      rw [heq] at hafter ⊢
      exact ih hafter hs hn

/-! ### Refusals -/

/-- At rest, the state and the measurement position say the same about a mounted sample. -/
def Agrees (c : Changer) : Prop :=
  (c.state = .homeMounted ↔ c.mounted.isSome) ∧ (c.state = .home ↔ c.mounted = none)

end Changer

/-- After so many good acknowledgements, a refusal comes too late for a program that was announced
by this state.  A mount or an unmount is over after the first one; a switch is half done after the
first one, and has a sample mounted again after the second one. -/
def Overtaken (announced : State) (count : Nat) : Prop :=
  match announced with
  | .mounting | .unmounting => 0 < count
  | .unmountingSwitch => count = 1
  | _ => False

theorem not_overtaken_of_not_transit {announced : State} (ht : announced.inTransit = false)
    (count : Nat) : ¬Overtaken announced count := by
  cases announced <;> cases ht <;> exact id

theorem agrees_abort_iff {c : Changer} {rest : State} (hr : rest.atRest = true) :
    (c.abort rest).Agrees ↔ (rest = .homeMounted ↔ c.mounted.isSome) := by
  show (rest = .homeMounted ↔ c.mounted.isSome) ∧ (rest = .home ↔ c.mounted = none) ↔ _
  cases rest <;> cases hr <;> cases c.mounted <;> simp

/-- The mounted sample after the messages agrees with the state before the plan, unless the
refusal comes too late. -/
theorem listen_started_agrees_iff {c : Changer} {p : Plan} (h : Consistent c) (hp : Planned c p)
    (messages : List (Message × Option String)) :
    (c.state = .homeMounted ↔ ((c.started p).listen messages).mounted.isSome) ↔
      ¬Overtaken (p.goal c.state) (acknowledgements messages) := by
  have hstarted := h.started hp
  have hbefore : c.mounted.isSome ↔ c.state = .homeMounted := by
    have hb := h.mounted
    rcases hp.state_cases with hs | hs <;> rw [hs] at hb ⊢ <;> exact hb.trans (by decide)
  -- a program without the gripper leaves the mounted sample alone
  have hcalm (ht : (p.goal c.state).inTransit = false) :
      (c.state = .homeMounted ↔ ((c.started p).listen messages).mounted.isSome) ↔
        ¬Overtaken (p.goal c.state) (acknowledgements messages) := by
    rw [Changer.listen_mounted_of_not_transit hstarted ht]
    exact iff_of_true hbefore.symm (not_overtaken_of_not_transit ht _)
  have hcases := hp.state_cases
  cases hp with
  | load _ _ => exact hcalm (by rcases hcases with hs | hs <;> rw [hs] <;> rfl)
  | unload _ _ _ => exact hcalm (by rcases hcases with hs | hs <;> rw [hs] <;> rfl)
  | scan _ => exact hcalm (by rcases hcases with hs | hs <;> rw [hs] <;> rfl)
  | run home => exact hcalm (by rw [home]; rfl)
  | @mount slot id home _ =>
    have hgoal : (⟨.mount slot, .mount, "mount", some id⟩ : Plan).goal c.state = .mounting := by
      rw [home]; rfl
    rw [Changer.listen_mounted_of_mounting hstarted hgoal (Changer.started_mountTarget hgoal),
      hgoal, home]
    cases acknowledgements messages <;> simp [Overtaken]
  | @unmount slot held home mounted _ =>
    have hgoal : (⟨.unmount slot, .unmount, "unmount", some held⟩ : Plan).goal c.state
        = .unmounting := by
      rw [home]; rfl
    have hheld : (c.started ⟨.unmount slot, .unmount, "unmount", some held⟩).mounted
        = some held := mounted
    rw [Changer.listen_mounted_of_unmounting hstarted hgoal, hheld, hgoal, home]
    cases acknowledgements messages <;> simp [Overtaken]
  | @switch slot other held id home mounted _ _ _ =>
    have hgoal : (⟨.unmount slot, .mount, switchTag, some id⟩ : Plan).goal c.state
        = .unmountingSwitch := by
      rw [home]; rfl
    have hheld : (c.started ⟨.unmount slot, .mount, switchTag, some id⟩).mounted
        = some held := mounted
    rw [Changer.listen_mounted_of_switch hstarted hgoal (Changer.started_nextSample hgoal), hheld,
      hgoal, home]
    match acknowledgements messages with
    | 0 => simp [Overtaken]
    | 1 => simp [Overtaken]
    | count + 2 => simp [Overtaken]

/-! ### Reachable changers -/

/-- What can become of an empty changer, as long as every refusal that messages got ahead of came
in time. -/
inductive Reached : Changer → Prop
  | empty (n : Nat) : Reached (Changer.ofSize n)
  | step {c : Changer} (before : Reached c) (move : Move) : Reached (c.step move)
  /-- A plan is announced, messages come in, and then the robot refuses. -/
  | refused {c c' begun : Changer} {command : Command} {p : Plan} {order : Order}
      {next : Changer → Answer → Changer × Except Error State} (before : Reached c)
      (plan : c.plan command = (c', .ok (some p))) (execute : c'.execute p = .ask begun order next)
      (messages : List (Message × Option String)) (reason : String)
      (timely : ¬Overtaken begun.state (acknowledgements messages)) :
      Reached (next (begun.listen messages) (.error reason)).1

theorem Reached.run {c : Changer} (h : Reached c) (moves : List Move) : Reached (c.run moves) :=
  Changer.run_induction (fun _ move before => before.step move) h moves

/-- An accepted plan is made for the changer as it is, up to the round. -/
theorem turn_of_plan {c c' : Changer} {command : Command} {p : Plan}
    (hplan : c.plan command = (c', .ok (some p))) : ∃ cursor, c' = c.turn cursor := by
  obtain ⟨cursor, hcursor⟩ := Changer.plan_fst c command
  exact ⟨cursor, by rw [← hcursor, hplan]⟩

theorem Reached.consistent {c : Changer} (h : Reached c) : Consistent c := by
  induction h with
  | empty n => exact Consistent.ofSize n
  | step _ move ih => exact ih.step move
  | @refused c c' begun command p order next _ hplan hexecute messages reason htimely ih =>
    obtain ⟨cursor, rfl⟩ := turn_of_plan hplan
    have hplanned := Changer.planned_of_plan hplan
    rw [Changer.execute_of_planned hplanned] at hexecute
    cases hexecute
    have hagrees := (listen_started_agrees_iff (ih.turn cursor) hplanned messages).mpr htimely
    exact Consistent.abort hplanned.atRest hagrees.symm

/-- **A late refusal.**  A plan is announced, messages come in, and the robot refuses.  The state
from before is back, and it says the same as the measurement position unless the refusal was
overtaken by the acknowledgement of a mount, an unmount or the first half of a switch. -/
theorem refusal_agrees_iff {c c' : Changer} {command : Command} {p : Plan} (h : Reached c)
    (hplan : c.plan command = (c', .ok (some p))) :
    ∃ begun next, c'.execute p = .ask begun (.run p.program.fileName p.tag) next ∧
      ∀ messages reason,
        let after := (next (begun.listen messages) (.error reason)).1
        after.state = c.state ∧
          (after.Agrees ↔ ¬Overtaken begun.state (acknowledgements messages)) := by
  obtain ⟨cursor, rfl⟩ := turn_of_plan hplan
  have hplanned := Changer.planned_of_plan hplan
  refine ⟨_, _, Changer.execute_of_planned hplanned, fun messages reason => ⟨rfl, ?_⟩⟩
  have hagrees := listen_started_agrees_iff (h.consistent.turn cursor) hplanned messages
  exact (agrees_abort_iff hplanned.atRest).trans hagrees

/-- One sample is loaded, and nothing is mounted. -/
def oneLoaded : Changer := (Changer.ofSize 1).run loadOne

/-- The mount of that sample. -/
def mountOfFirst : Plan := ⟨.mount 0, .mount, "mount", some "@0"⟩

theorem reached_oneLoaded : Reached oneLoaded := (Reached.empty 1).run loadOne

theorem plan_oneLoaded :
    oneLoaded.plan (.mount "@0") = (oneLoaded, .ok (some mountOfFirst)) := by
  have hhome : oneLoaded.state = .home := by decide +kernel
  have hstored : oneLoaded.magazine.slotOf? "@0" = some 0 := by decide +kernel
  simp only [Changer.plan, Changer.planMount, Changer.requireRest, Changer.slotOf, hhome, hstored]
  rfl

theorem refusal_agrees_iff_mount :
    Reached oneLoaded ∧ oneLoaded.plan (.mount "@0") = (oneLoaded, .ok (some mountOfFirst)) ∧
      ∃ begun next, oneLoaded.execute mountOfFirst
          = .ask begun (.run mountOfFirst.program.fileName mountOfFirst.tag) next ∧
        ∀ messages reason,
          let after := (next (begun.listen messages) (.error reason)).1
          after.state = oneLoaded.state ∧
            (after.Agrees ↔ ¬Overtaken begun.state (acknowledgements messages)) :=
  ⟨reached_oneLoaded, plan_oneLoaded, refusal_agrees_iff reached_oneLoaded plan_oneLoaded⟩

/-- The acknowledgement of a mount comes before its refusal: the changer is back at home, and the
sample is at the measurement position. -/
theorem late_refusal_leaves_sample_mounted :
    oneLoaded.plan (.mount "@0") = (oneLoaded, .ok (some mountOfFirst)) ∧
      ∃ begun next, oneLoaded.execute mountOfFirst
          = .ask begun (.run mountOfFirst.program.fileName mountOfFirst.tag) next ∧
        let after := (next (begun.listen [(.ok, none)]) (.error "protective stop")).1
        after.state = .home ∧ after.mounted = some "@0" ∧ ¬after.Agrees := by
  have hplanned := Changer.planned_of_plan plan_oneLoaded
  refine ⟨plan_oneLoaded, _, _, Changer.execute_of_planned hplanned, ?_⟩
  have hhome : oneLoaded.state = .home := by decide +kernel
  have hmounted : ((oneLoaded.started mountOfFirst).listen [(.ok, none)]).mounted = some "@0" := by
    decide +kernel
  refine ⟨hhome, hmounted, ?_⟩
  rintro ⟨-, hempty⟩
  have hnone : ((oneLoaded.started mountOfFirst).listen [(.ok, none)]).mounted = none :=
    hempty.mp hhome
  rw [hmounted] at hnone
  cases hnone

end Autosampler

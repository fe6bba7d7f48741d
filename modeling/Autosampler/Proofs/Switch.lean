import Autosampler.Proofs.Presence
import Autosampler.Proofs.Rollback

/-!
# A switch of samples

A switch takes two programs: the mounted sample goes back into its slot, and the next one comes from
the slot that holds it by then.  All the while the robot may send messages that acknowledge nothing.
They can move or remove samples in the books, but they do not touch the rest of the changer, so a
switch has two outcomes and no more.

* `Message.isRemark`, `Remarks`, `Changer.stock`, `Changer.listen_of_remarks` — messages that
  acknowledge nothing, and what they leave;
* `Clearing`, `Fetching`, `Settled` — the first half of a switch, the mount, and the rest after it;
* `Clearing.acknowledged`, `Fetching.acknowledged`, `Fetching.abandoned` — from one to the next;
* `Action.carryOutAmid` — an action during which the robot goes on sending messages;
* `switch_outcomes` — the two outcomes.
-/

namespace Autosampler

/-! ### Messages that acknowledge nothing -/

/-- The message acknowledges no program, neither as finished nor as failed. -/
def Message.isRemark : Message → Bool
  | .ok | .error _ => false
  | _ => true

/-- Messages that acknowledge nothing. -/
def Remarks (talk : List (Message × Option String)) : Prop :=
  ∀ said ∈ talk, said.1.isRemark = true

namespace Changer

variable {c : Changer} {talk : List (Message × Option String)}

/-- The changer with other texts in its slots. -/
def stock (c : Changer) (slots : List String) : Changer :=
  { c with magazine := { c.magazine with slots := slots } }

/-- Outside a scan, such a message is a matter of the slots alone. -/
theorem hear_of_remark {message : Message} (hs : c.state.scanning = false)
    (hm : message.isRemark = true) (label : Option String) :
    ∃ slots, c.hear message label = c.stock slots := by
  cases message with
  | slot number present =>
    rw [hear_slot_of_not_scanning number present hs]
    split
    · exact ⟨c.magazine.slots, rfl⟩
    · have hcursor := c.notePresence_cursor (number - 1) present
      obtain ⟨⟨slots, cursor⟩, hnoted⟩ := c.notePresence_fst (number - 1) present
      rw [hnoted] at hcursor ⊢
      cases hcursor
      exact ⟨slots, rfl⟩
  | qr number => exact ⟨c.magazine.slots, hear_code_of_not_scanning number hs⟩
  | get key => exact ⟨c.magazine.slots, rfl⟩
  | ok => cases hm
  | error text => cases hm

theorem listen_of_remarks (hs : c.state.scanning = false) (ht : Remarks talk) :
    ∃ slots, c.listen talk = c.stock slots := by
  induction talk generalizing c with
  | nil => exact ⟨c.magazine.slots, rfl⟩
  | cons said talk ih =>
    obtain ⟨slots, hsaid⟩ := hear_of_remark hs (ht said List.mem_cons_self) said.2
    obtain ⟨slots', hrest⟩ := ih (c := c.stock slots) hs fun later hlater =>
      ht later (List.mem_cons_of_mem said hlater)
    refine ⟨slots', ?_⟩
    show (c.hear said.1 said.2).listen talk = _
    rw [hsaid, hrest]
    rfl

/-! ### Plan and programs of a switch -/

/-- The plan of a switch from the sample of `slot` to `id`. -/
def switchPlan (slot : Nat) (id : String) : Plan := ⟨.unmount slot, .mount, switchTag, some id⟩

theorem planMount_of_homeMounted {held id : String} {slot other : Nat}
    (hs : c.state = .homeMounted) (hm : c.mounted = some held)
    (hheld : c.magazine.slotOf? held = some slot) (hid : c.magazine.slotOf? id = some other)
    (hne : id ≠ held) : c.planMount id = .ok (switchPlan slot id) := by
  have hrest : c.requireRest = .ok () := by rw [requireRest, hs]; rfl
  simp only [planMount, bind, Except.bind, hrest, slotOf_eq_ok.mpr hid, hs, hm, reduceCtorEq,
    if_false, if_neg hne.symm, slotOf_eq_ok.mpr hheld]
  rfl

theorem execute_switchPlan (hs : c.state = .homeMounted) (slot : Nat) (id : String) :
    c.execute (switchPlan slot id)
      = .ask (c.started (switchPlan slot id)) (.run (Program.unmount slot).fileName switchTag)
        fun now answer =>
          match answer with
          | .ok _ => (now, .ok .unmountingSwitch)
          | .error reason => (now.abort .homeMounted, .error (.driver reason)) := by
  have hgoal : (switchPlan slot id).goal c.state = .unmountingSwitch := by rw [hs]; rfl
  have ht : (switchPlan slot id).event.target? c.state
      = some ((switchPlan slot id).goal c.state) := by
    rw [hs]; rfl
  have hexecute := execute_of_target ht (by rw [hgoal]; decide) (by rw [hs]; decide)
  rw [hgoal, hs] at hexecute
  exact hexecute

theorem takeChained_of_cons {id : String} {rest : List String} (hw : c.chained = id :: rest) :
    c.takeChained = some (id, c.untied) := by
  simp only [takeChained, hw, untied, List.tail_cons]

end Changer

/-! ### From one half to the other -/

/-- The mounted sample is on its way back, and the mount of `id` comes next. -/
structure Clearing (c : Changer) (id : String) : Prop where
  state : c.state = .unmountingSwitch
  tag : c.machine.tag = some switchTag
  next : c.machine.nextSample = some id
  chained : c.chained = []

/-- The mount of `id` is under way, and the samples of `queue` wait. -/
structure Fetching (c : Changer) (id : String) (queue : List String) : Prop where
  state : c.state = .mounting
  tag : c.machine.tag = some "mount"
  target : c.machine.mountTarget = some id
  mounted : c.mounted = none
  chained : c.chained = queue

/-- The arm is at home with `sample` mounted, nothing is pending, and no sample waits. -/
structure Settled (c : Changer) (sample : Option String) : Prop where
  state : c.state = if sample.isSome then .homeMounted else .home
  mounted : c.mounted = sample
  pending : c.pending = none
  chained : c.chained = []

namespace Clearing

variable {c : Changer} {id : String} {talk : List (Message × Option String)}

theorem started (hs : c.state = .homeMounted) (hq : c.chained = []) (slot : Nat) (id : String) :
    Clearing (c.started (Changer.switchPlan slot id)) id := by
  have hgoal : (Changer.switchPlan slot id).goal c.state = .unmountingSwitch := by rw [hs]; rfl
  exact ⟨hgoal, rfl, Changer.started_nextSample hgoal, hq⟩

theorem scanning (h : Clearing c id) : c.state.scanning = false := by rw [h.state]; rfl

theorem listen (h : Clearing c id) (ht : Remarks talk) : Clearing (c.listen talk) id := by
  obtain ⟨slots, heq⟩ := Changer.listen_of_remarks h.scanning ht
  rw [heq]
  exact ⟨h.state, h.tag, h.next, h.chained⟩

/-- The acknowledgement starts the mount of the next sample and leaves it waiting. -/
theorem acknowledged (h : Clearing c id) (label : Option String) :
    Fetching (c.hear .ok label) id [id] ∧ (c.hear .ok label).magazine = c.magazine := by
  have hwears : c.state.Wears c.machine.tag := by rw [h.state]; exact h.tag
  rw [Changer.hear_ok_of_switch hwears h.state h.next]
  refine ⟨⟨rfl, rfl, rfl, rfl, ?_⟩, rfl⟩
  show c.chained ++ [id] = [id]
  rw [h.chained, List.nil_append]

end Clearing

namespace Fetching

variable {c : Changer} {id : String} {queue : List String} {talk : List (Message × Option String)}

theorem scanning (h : Fetching c id queue) : c.state.scanning = false := by rw [h.state]; rfl

theorem listen (h : Fetching c id queue) (ht : Remarks talk) :
    Fetching (c.listen talk) id queue := by
  obtain ⟨slots, heq⟩ := Changer.listen_of_remarks h.scanning ht
  rw [heq]
  exact ⟨h.state, h.tag, h.target, h.mounted, h.chained⟩

theorem untied (h : Fetching c id queue) : Fetching c.untied id queue.tail :=
  ⟨h.state, h.tag, h.target, h.mounted, congrArg List.tail h.chained⟩

theorem pend (h : Fetching c id queue) (program : Program) :
    Fetching { c with pending := some program } id queue :=
  ⟨h.state, h.tag, h.target, h.mounted, h.chained⟩

/-- The acknowledgement brings the sample to the measurement position. -/
theorem acknowledged (h : Fetching c id []) (label : Option String) :
    Settled (c.hear .ok label) (some id) ∧ (c.hear .ok label).magazine = c.magazine := by
  have hwears : c.state.Wears c.machine.tag := by rw [h.state]; exact h.tag
  have hfinished : Event.programFinished.target? c.state = some .homeMounted := by
    rw [h.state]; decide
  have hbooks : c.acknowledge = { c.dropPending with mounted := some id } := by
    simp only [Changer.acknowledge, h.state, Changer.finishMount, h.target]
  rw [Changer.hear_ok_of_target hwears (by rw [h.state]; decide) hfinished (by decide), hbooks]
  exact ⟨⟨rfl, rfl, rfl, h.chained⟩, rfl⟩

/-- A mount that is given up leaves the arm at home, and an acknowledgement means nothing then. -/
theorem abandoned (h : Fetching c id []) {before after : List (Message × Option String)}
    (hbefore : Remarks before) (hafter : Remarks after) (label : Option String) :
    Settled ((((c.abort .home).listen before).hear .ok label).listen after) none := by
  obtain ⟨slots, heq⟩ := Changer.listen_of_remarks (c := c.abort .home) rfl hbefore
  have hok : ((c.abort .home).stock slots).hear .ok label = (c.abort .home).stock slots :=
    Changer.hear_ok_of_rest (Or.inl rfl) rfl
  obtain ⟨slots', heq'⟩ :=
    Changer.listen_of_remarks (c := (c.abort .home).stock slots) rfl hafter
  rw [heq, hok, heq']
  exact ⟨rfl, h.mounted, rfl, h.chained⟩

end Fetching

namespace Settled

variable {c : Changer} {sample : Option String} {talk : List (Message × Option String)}

theorem scanning (h : Settled c sample) : c.state.scanning = false := by
  rw [h.state]
  split <;> rfl

theorem listen (h : Settled c sample) (ht : Remarks talk) : Settled (c.listen talk) sample := by
  obtain ⟨slots, heq⟩ := Changer.listen_of_remarks h.scanning ht
  rw [heq]
  exact ⟨h.state, h.mounted, h.pending, h.chained⟩

end Settled

/-! ### The two outcomes -/

/-- Carry out an action while the robot goes on sending messages: `talk` comes before its answer. -/
def Action.carryOutAmid {α : Type} (talk : List (Message × Option String))
    (answer : Order → Answer) : Action α → Carried α
  | .done c r => ⟨c, [], r⟩
  | .ask c order next =>
    let (c', r) := next (c.listen talk) (answer order)
    ⟨c', [order], r⟩

/-- A switch after its planning, step by step. -/
structure SwitchCourse where
  /-- The first program is announced and accepted. -/
  begun : Carried (Except Error State)
  /-- The first program is acknowledged. -/
  returned : Changer
  /-- The sample that waits is taken from the queue. -/
  waiting : Changer
  /-- The slot of that sample is looked up. -/
  found : Changer
  /-- The second program, if there is one, is announced and accepted. -/
  delivery : Carried (Except Error State)
  /-- After the second acknowledgement, no more messages come. -/
  last : Changer

/-- The course of a switch to `id` with a robot that accepts every order.  Between any two steps
comes a part of `talk`. -/
def Changer.switchTo (c : Changer) (p : Plan) (id : String)
    (talk : Nat → List (Message × Option String)) (label label' : Option String) : SwitchCourse :=
  let begun := ((c.listen (talk 0)).execute p).carryOutAmid (talk 1) willing
  let returned := (begun.changer.listen (talk 2)).hear .ok label
  let waiting := returned.listen (talk 3)
  let found := waiting.untied.listen (talk 4)
  let delivery := (found.resume id).carryOutAmid (talk 5) willing
  let last := ((delivery.changer.listen (talk 6)).hear .ok label').listen (talk 7)
  { begun, returned, waiting, found, delivery, last }

/-- **A switch has two outcomes.**  A sample is mounted and has its slot, another stored one is
asked for, and no sample waits.  The robot accepts every order, and between any two steps it sends
whatever messages it likes, acknowledgements excepted.  The mounted sample goes back to the slot
where it was stored at the planning, and the acknowledgement leaves the other sample waiting, alone.
If that one is stored when its turn comes, its program is started for the slot in which it is then,
and it ends up mounted.  Otherwise no second program is started, and the arm ends up at home, with
nothing mounted and nothing pending. -/
theorem switch_outcomes {c : Changer} {held id : String} {slot other : Nat}
    (hs : c.state = .homeMounted) (hm : c.mounted = some held)
    (hheld : c.magazine.slotOf? held = some slot) (hq : c.chained = [])
    (hid : c.magazine.slotOf? id = some other) (hne : id ≠ held)
    (talk : Nat → List (Message × Option String)) (htalk : ∀ i, Remarks (talk i))
    (label label' : Option String) :
    ∃ p, c.plan (.mount id) = (c, .ok (some p)) ∧
      let course := c.switchTo p id talk label label'
      let back := Order.run (Program.unmount slot).fileName switchTag
      course.begun.result = .ok .unmountingSwitch ∧ course.returned.chained = [id] ∧
        course.waiting.takeChained = some (id, course.waiting.untied) ∧
        match course.found.magazine.slotOf? id with
        | some there =>
          course.begun.orders ++ course.delivery.orders
              = [back, .run (Program.mount there).fileName "mount"] ∧
            Settled course.last (some id)
        | none =>
          course.begun.orders ++ course.delivery.orders = [back] ∧ Settled course.last none := by
  have hplan := Changer.planMount_of_homeMounted hs hm hheld hid hne
  refine ⟨Changer.switchPlan slot id, by rw [Changer.plan, hplan]; rfl, ?_⟩
  intro course back
  -- the first half
  obtain ⟨slots, hplanned⟩ := Changer.listen_of_remarks (c := c) (by rw [hs]; rfl) (htalk 0)
  have hbegun : course.begun
      = ⟨((c.stock slots).started (Changer.switchPlan slot id)).listen (talk 1), [back],
          .ok .unmountingSwitch⟩ := by
    show ((c.listen (talk 0)).execute _).carryOutAmid (talk 1) willing = _
    rw [hplanned, Changer.execute_switchPlan (c := c.stock slots) hs]
    rfl
  have hclearing : Clearing course.begun.changer id := by
    rw [hbegun]
    exact (Clearing.started (c := c.stock slots) hs hq slot id).listen (htalk 1)
  obtain ⟨hreturned, -⟩ := (hclearing.listen (htalk 2)).acknowledged label
  -- the second half
  have hwaiting : Fetching course.waiting id [id] := hreturned.listen (htalk 3)
  have hfound : Fetching course.found id [] := hwaiting.untied.listen (htalk 4)
  refine ⟨by rw [hbegun], hreturned.chained, Changer.takeChained_of_cons hwaiting.chained, ?_⟩
  cases hthere : course.found.magazine.slotOf? id with
  | none =>
    have hdelivery : course.delivery
        = ⟨course.found.abort .home, [], .error (.magazine (.unknownSample id))⟩ := by
      show (course.found.resume id).carryOutAmid (talk 5) willing = _
      rw [Changer.resume_missing hfound.state hthere]
      rfl
    refine ⟨by rw [hbegun, hdelivery]; rfl, ?_⟩
    show Settled (((course.delivery.changer.listen (talk 6)).hear .ok label').listen (talk 7)) none
    rw [hdelivery]
    exact hfound.abandoned (htalk 6) (htalk 7) label'
  | some there =>
    have hdelivery : course.delivery
        = ⟨({ course.found with pending := some (.mount there) } : Changer).listen (talk 5),
            [.run (Program.mount there).fileName "mount"], .ok .mounting⟩ := by
      show (course.found.resume id).carryOutAmid (talk 5) willing = _
      rw [Changer.resume_stored hfound.state hthere]
      rfl
    have hfetching : Fetching course.delivery.changer id [] := by
      rw [hdelivery]
      exact (hfound.pend (.mount there)).listen (htalk 5)
    refine ⟨by rw [hbegun, hdelivery]; rfl, ?_⟩
    exact ((hfetching.listen (htalk 6)).acknowledged label').1.listen (htalk 7)

/-- Two samples are loaded, and the first one is mounted. -/
def firstOfTwo : Changer :=
  (Changer.ofSize 2).run
    (loadOne ++ loadOne ++ [.command (.mount "@0") willing, .message .ok none])

/-- Probes all the time, and a report that the second slot is empty after the first half. -/
def talkOfLoss : Nat → List (Message × Option String)
  | 3 => [(.slot 2 false, none), (.qr 1, some "A")]
  | _ => [(.get "state", none)]

theorem switch_outcomes_lost :
    firstOfTwo.state = .homeMounted ∧ firstOfTwo.mounted = some "@0" ∧
      firstOfTwo.magazine.slotOf? "@0" = some 0 ∧ firstOfTwo.chained = [] ∧
      firstOfTwo.magazine.slotOf? "@1" = some 1 ∧ "@1" ≠ "@0" ∧ (∀ i, Remarks (talkOfLoss i)) ∧
      ∃ p, firstOfTwo.plan (.mount "@1") = (firstOfTwo, .ok (some p)) ∧
        let course := firstOfTwo.switchTo p "@1" talkOfLoss none none
        course.returned.chained = ["@1"] ∧
          course.begun.orders ++ course.delivery.orders
              = [.run (Program.unmount 0).fileName switchTag] ∧
            Settled course.last none := by
  have hs : firstOfTwo.state = .homeMounted := by decide +kernel
  have hm : firstOfTwo.mounted = some "@0" := by decide +kernel
  have hheld : firstOfTwo.magazine.slotOf? "@0" = some 0 := by decide +kernel
  have hq : firstOfTwo.chained = [] := by decide +kernel
  have hid : firstOfTwo.magazine.slotOf? "@1" = some 1 := by decide +kernel
  have hne : "@1" ≠ "@0" := by decide
  have htalk (i : Nat) : Remarks (talkOfLoss i) := by
    intro said hsaid
    unfold talkOfLoss at hsaid
    split at hsaid <;> simp only [List.mem_cons, List.not_mem_nil, or_false] at hsaid
    · rcases hsaid with rfl | rfl <;> rfl
    · rw [hsaid]; rfl
  obtain ⟨p, hplan, -, hqueue, -, hend⟩ :=
    switch_outcomes hs hm hheld hq hid hne talkOfLoss htalk none none
  have hp : p = Changer.switchPlan 0 "@1" := by
    have hknown := Changer.planMount_of_homeMounted hs hm hheld hid hne
    rw [Changer.plan, hknown] at hplan
    cases hplan
    rfl
  have hlost : (firstOfTwo.switchTo (Changer.switchPlan 0 "@1") "@1" talkOfLoss none none
      ).found.magazine.slotOf? "@1" = none := by
    decide +kernel
  refine ⟨hs, hm, hheld, hq, hid, hne, htalk, p, hplan, hqueue, ?_⟩
  rw [hp] at hend ⊢
  rw [hlost] at hend
  exact hend

end Autosampler

import Autosampler.Proofs.MountedSlot
import Autosampler.Proofs.Waiting

/-!
# Samples that are recorded without being fetched

The acknowledgement of a mount records the sample of the mount under way.  It does not ask whether
a program was started for it, and after the first half of a switch there is none until the sample's
turn in the queue.

* `Changer.Fetches`, `Changer.Fetched` — the robot accepts the program that takes a sample from
  its slot, in one step and in a list of steps;
* `UnderWay` — the steps of the mount under way;
* `Changer.run_in_mount` — during a mount, the samples fetched are those that leave the queue;
* `Changer.enter_cases` — a mount begins by a command or by a completed switch;
* `Changer.fetched_iff` — when the sample of a mount was fetched;
* `recorded_fetched_iff` — a recorded sample was fetched exactly if its mount was commanded, or it
  has left the queue.
-/

namespace Autosampler

/-- A move is a command of an operator. -/
def Move.isCommand : Move → Bool
  | .command _ _ => true
  | _ => false

/-- The number of deliveries in a list of steps. -/
def deliveries (moves : List Move) : Nat := moves.countP Move.isDelivery

theorem deliveries_cons (move : Move) (moves : List Move) :
    deliveries (move :: moves) = deliveries [move] + deliveries moves := by
  show ([move] ++ moves).countP Move.isDelivery = _
  rw [List.countP_append]
  rfl

namespace Changer

variable {c : Changer} {move : Move} {id : String}

/-- In this step, the robot accepts the program that takes the sample from its slot. -/
def Fetches (c : Changer) (move : Move) (id : String) : Prop :=
  ∃ slot : Nat, (Order.run (Program.mount slot).fileName "mount", .ok ()) ∈ c.calls move ∧
    c.magazine.slots[slot]? = some id

/-- In one of these steps, the robot accepts the program that takes the sample from its slot. -/
def Fetched (c : Changer) (id : String) : List Move → Prop
  | [] => False
  | move :: moves => c.Fetches move id ∨ Fetched (c.step move) id moves

end Changer

/-- The steps after `before` are those of the mount under way: the machine enters `mounting` in the
first of them, and it stays there. -/
structure UnderWay (c : Changer) (moves before : List Move) (enter : Move) (carry : List Move) :
    Prop where
  split : moves = before ++ enter :: carry
  away : (c.run before).state ≠ .mounting
  stays : Changer.Along (fun d => d.state = .mounting) ((c.run before).step enter) carry

namespace Changer

variable {c : Changer} {move enter : Move} {id : String} {label : Option String}

/-! ### During a mount -/

/-- During a mount, a command asks for no program that fetches a sample. -/
theorem not_fetches_command (hs : c.state = .mounting) (command : Command)
    (answer : Order → Answer) : ¬c.Fetches (.command command answer) id := by
  rintro ⟨slot, hcalls, -⟩
  rw [calls, List.mem_map] at hcalls
  obtain ⟨order, horder, hpair⟩ := hcalls
  obtain ⟨rfl, -⟩ := Prod.mk.inj hpair
  have hupshot := command_upshot c command answer
  generalize (c.command command).carryOut answer = carried at hupshot horder
  cases hupshot with
  | quiet cursor idle => exact idle _ _ horder
  | reset home => exact absurd (home _ _ horder) (by decide)
  | started _ planned _ =>
    have hr : c.state.atRest = true := planned.atRest
    rw [hs] at hr
    cases hr
  | refused _ planned _ =>
    have hr : c.state.atRest = true := planned.atRest
    rw [hs] at hr
    cases hr

/-- A step that does not end the mount takes a sample from the queue exactly if it is a delivery,
and this is the sample that it fetches. -/
theorem step_in_mount (h : Consistent c) (hs : c.state = .mounting)
    (hstays : (c.step move).state = .mounting) (id : String) :
    (c.step move).chained = c.chained.drop (deliveries [move]) ∧
      (c.Fetches move id ↔ id ∈ c.chained.take (deliveries [move])) := by
  cases move with
  | command command answer =>
    obtain ⟨cursor, heq⟩ := command_of_mounting hs command answer hstays
    rw [step, heq]
    exact ⟨rfl, iff_of_false (not_fetches_command hs command answer) List.not_mem_nil⟩
  | message message label =>
    have hscan : c.state.scanning = false := by rw [hs]; rfl
    obtain ⟨magazine, pending, heq⟩ :=
      hear_of_not_scanning hscan (h.ne_ok_of_mounting hs hstays) label
    rw [step, heq]
    refine ⟨rfl, iff_of_false ?_ List.not_mem_nil⟩
    rintro ⟨slot, hcalls, -⟩
    cases hcalls
  | deliver answer =>
    show (c.step (.deliver answer)).chained = c.chained.drop 1 ∧
      (c.Fetches (.deliver answer) id ↔ id ∈ c.chained.take 1)
    have hupshot := c.delivered answer
    unfold Fetches
    generalize c.step (.deliver answer) = after, c.calls (.deliver answer) = asked at hupshot hstays
    cases hupshot with
    | nothing empty =>
      rw [empty]
      refine ⟨rfl, iff_of_false ?_ List.not_mem_nil⟩
      rintro ⟨slot, hcalls, -⟩
      cases hcalls
    | aside _ elsewhere => exact absurd hs elsewhere
    | missing _ _ _ => cases hstays
    | @started waiting rest slot waits _ stored _ =>
      have hheld := (Magazine.slotOf?_eq_some_iff.mp stored).2.1
      refine ⟨by rw [untied, List.drop_one], ?_⟩
      rw [waits, List.take_succ_cons, List.take_zero, List.mem_singleton]
      constructor
      · rintro ⟨slot', hcalls, hslot'⟩
        have hname := (Prod.mk.inj (List.mem_singleton.mp hcalls)).1
        have hsame := Program.mount_fileName_injective (Order.run.inj hname).1
        rw [hsame, hheld] at hslot'
        exact (Option.some.inj hslot').symm
      · rintro rfl
        exact ⟨slot, List.mem_singleton_self _, hheld⟩
    | refused _ _ _ _ => cases hstays

/-- Until a mount is over, the samples that leave the queue are fetched, and no others. -/
theorem run_in_mount (h : Consistent c) {carry : List Move}
    (hcarry : Along (fun d => d.state = .mounting) c carry) (id : String) :
    (c.run carry).chained = c.chained.drop (deliveries carry) ∧
      (c.Fetched id carry ↔ id ∈ c.chained.take (deliveries carry)) := by
  induction carry generalizing c with
  | nil => exact ⟨rfl, iff_of_false not_false List.not_mem_nil⟩
  | cons move carry ih =>
    obtain ⟨hqueue, hfetch⟩ := step_in_mount h hcarry.1 hcarry.2.head id
    obtain ⟨hqueue', hfetch'⟩ := ih (h.step move) hcarry.2
    rw [run_cons, deliveries_cons]
    refine ⟨?_, ?_⟩
    · rw [hqueue', hqueue, List.drop_drop]
    · rw [List.take_add, List.mem_append, ← hqueue, ← hfetch', ← hfetch]
      rfl

/-! ### How a mount begins -/

/-- A message begins a mount only as the acknowledgement of the first half of a switch. -/
theorem enter_by_message (h : Consistent c) (haway : c.state ≠ .mounting) (message : Message)
    (henter : (c.hear message label).state = .mounting) :
    ∃ next, (c.hear message label).machine.mountTarget = some next ∧
      (c.hear message label).chained = c.chained ++ [next] := by
  by_cases hm : message = .ok
  · subst hm
    have hupshot := h.acknowledged label
    generalize c.hear .ok label = after at hupshot henter
    cases hupshot with
    | rest _ => exact absurd henter haway
    | early _ => exact absurd henter haway
    | switch _ _ => exact ⟨_, rfl, rfl⟩
    | home _ _ _ _ => cases henter
    | homeMounted _ _ => cases henter
  · by_cases hscan : c.state.scanning = true
    · have hafter := hear_scanning hscan hm label
      rw [henter] at hafter
      cases hafter
    · obtain ⟨magazine, pending, heq⟩ := hear_of_not_scanning (by simpa using hscan) hm label
      rw [heq] at henter
      exact absurd henter haway

/-- A mount begins by a command, and then its sample is fetched in the same step; or the first half
of a switch is acknowledged, and then its sample is the last one in the queue. -/
theorem enter_cases (h : Consistent c) (haway : c.state ≠ .mounting)
    (henter : (c.step enter).state = .mounting) :
    ∃ wanted, (c.step enter).machine.mountTarget = some wanted ∧
      ((enter.isCommand = true ∧ (c.step enter).chained = c.chained ∧ c.Fetches enter wanted) ∨
        (enter.isCommand = false ∧ (c.step enter).chained = c.chained ++ [wanted] ∧
          ∀ id, ¬c.Fetches enter id)) := by
  cases enter with
  | command command answer =>
    have hupshot := command_upshot c command answer
    unfold Fetches calls
    simp only [step] at henter ⊢
    generalize (c.command command).carryOut answer = carried at hupshot henter
    cases hupshot with
    | quiet cursor _ => exact absurd henter haway
    | reset _ =>
      have hrest : c.reset.1.state = restState c.state := rfl
      rw [henter] at hrest
      unfold restState at hrest
      split at hrest
      · cases hrest
      · split at hrest <;> cases hrest
    | @started cursor p _ planned accepted =>
      have hgoal : p.goal (c.turn cursor).state = .mounting := henter
      have htag := planned.goal_spec.2.1
      rw [hgoal] at htag
      cases planned with
      | @mount slot wanted home stored =>
        refine ⟨wanted, started_mountTarget hgoal, Or.inl ⟨rfl, rfl, slot, ?_, ?_⟩⟩
        · rw [List.map_singleton, accepted]
          exact List.mem_singleton_self _
        · exact (Magazine.slotOf?_eq_some_iff.mp stored).2.1
      | _ => simp [State.workTag?, switchTag, Event.id] at htag
    | refused _ _ _ => exact absurd henter haway
  | message message label =>
    obtain ⟨next, htarget, hqueue⟩ := enter_by_message h haway message henter
    refine ⟨next, htarget, Or.inr ⟨rfl, hqueue, ?_⟩⟩
    rintro id ⟨slot, hcalls, -⟩
    cases hcalls
  | deliver answer =>
    have hupshot := c.delivered answer
    generalize c.step (.deliver answer) = after, c.calls (.deliver answer) = asked
      at hupshot henter
    cases hupshot with
    | nothing _ => exact absurd henter haway
    | aside _ _ => exact absurd henter haway
    | missing _ _ _ => cases henter
    | started _ mounting _ _ => exact absurd mounting haway
    | refused _ _ _ _ => cases henter

/-- A run that ends during a mount has begun it at some step, or it was under way all the time. -/
theorem exists_underWay {moves : List Move} (hs : (c.run moves).state = .mounting) :
    Along (fun d => d.state = .mounting) c moves ∨
      ∃ before enter carry, UnderWay c moves before enter carry := by
  induction moves generalizing c with
  | nil => exact Or.inl hs
  | cons move moves ih =>
    rcases ih hs with halong | ⟨before, enter, carry, hsplit, haway, hstays⟩
    · by_cases hc : c.state = .mounting
      · exact Or.inl ⟨hc, halong⟩
      · exact Or.inr ⟨[], move, moves, rfl, hc, halong⟩
    · exact Or.inr ⟨move :: before, enter, carry, congrArg (move :: ·) hsplit, haway, hstays⟩

/-- A good acknowledgement records a sample only during its mount. -/
theorem mounting_of_recorded (h : Consistent c) (hnew : c.mounted ≠ some id)
    (hset : (c.hear .ok label).mounted = some id) :
    c.state = .mounting ∧ c.machine.mountTarget = some id := by
  have hack : c.acknowledge.mounted = some id := by
    rw [hear_ok, dispatch_ok h.tag] at hset
    exact hset
  rw [acknowledge_mounted] at hack
  split at hack
  · rename_i hs htarget
    exact ⟨hs, htarget.trans hack⟩
  · cases hack
  · cases hack
  · exact absurd hack hnew

/-- Alone in the queue, a sample has left it exactly when the queue is empty. -/
theorem mem_take_iff_of_singleton (wanted : String) (count : Nat) :
    wanted ∈ [wanted].take count ↔ [wanted].drop count = [] := by
  cases count with
  | zero => simp
  | succ count => simp

/-- From the step that begins a mount on, its sample was fetched exactly if the mount was commanded,
or the sample has left the queue. -/
theorem fetched_iff (h : Consistent c) (haway : c.state ≠ .mounting) {carry : List Move}
    (hstays : Along (fun d => d.state = .mounting) (c.step enter) carry) :
    ∃ wanted, ((c.step enter).run carry).machine.mountTarget = some wanted ∧
      let waiting := ((c.step enter).run carry).chained
      (c.Fetched wanted (enter :: carry) ↔
          enter.isCommand = true ∨ wanted ∈ (c.step enter).chained.take (deliveries carry)) ∧
        (waiting = [] → c.Fetched wanted (enter :: carry)) ∧
        (c.chained = [] → (c.Fetched wanted (enter :: carry) ↔ waiting = [])) := by
  obtain ⟨wanted, htarget, hway⟩ := enter_cases h haway hstays.head
  obtain ⟨hqueue, hfetch⟩ := run_in_mount (h.step enter) hstays wanted
  refine ⟨wanted, (run_of_mounting (h.step enter) hstays).1.trans htarget, ?_⟩
  intro waiting
  have hwaiting : waiting = (c.step enter).chained.drop (deliveries carry) := hqueue
  rcases hway with ⟨hcommand, hkept, hfetches⟩ | ⟨hmessage, hadded, hasks⟩
  · -- the mount was commanded, and its sample fetched at once
    have hfetched : c.Fetched wanted (enter :: carry) := Or.inl hfetches
    refine ⟨iff_of_true hfetched (Or.inl hcommand), fun _ => hfetched, ?_⟩
    intro hnone
    refine iff_of_true hfetched ?_
    rw [hwaiting, hkept, hnone, List.drop_nil]
  · -- a switch was completed, and its sample waits behind those of earlier ones
    have hiff : c.Fetched wanted (enter :: carry) ↔
        wanted ∈ (c.step enter).chained.take (deliveries carry) :=
      (or_iff_right (hasks wanted)).trans hfetch
    refine ⟨?_, ?_, ?_⟩
    · rw [hiff, hmessage]
      simp
    · intro hempty
      rw [hwaiting, List.drop_eq_nil_iff] at hempty
      rw [hiff, List.take_of_length_le hempty, hadded]
      exact List.mem_append_right _ (List.mem_singleton_self _)
    · intro hnone
      rw [hiff, hwaiting, hadded, hnone]
      exact mem_take_iff_of_singleton wanted _

end Changer

/-! ### Recorded samples -/

theorem UnderWay.run_eq {c : Changer} {moves before : List Move} {enter : Move}
    {carry : List Move} (h : UnderWay c moves before enter carry) :
    c.run moves = ((c.run before).step enter).run carry := by
  rw [h.split, Changer.run_append]
  rfl

theorem Orderly.left {c : Changer} {before after : List Move}
    (h : Orderly c (before ++ after)) : Orderly c before := by
  induction before generalizing c with
  | nil => trivial
  | cons move before ih => exact ⟨h.1, ih h.2⟩

/-- In a run that serves its queue in time, no sample waits when a mount begins. -/
theorem UnderWay.chained_eq_nil {n : Nat} {moves before : List Move} {enter : Move}
    {carry : List Move} (h : UnderWay (Changer.ofSize n) moves before enter carry)
    (ho : Orderly (Changer.ofSize n) moves) : ((Changer.ofSize n).run before).chained = [] := by
  rw [h.split] at ho
  have hprompt := Prompt.run (Consistent.ofSize n) (Or.inl rfl) ho.left
  exact hprompt.resolve_right fun ⟨_, _, hmounting, _⟩ => h.away hmounting

/-- **When a recorded sample was fetched.**  In any run from an empty changer, let a good
acknowledgement record a sample.  Since its mount began, the robot has accepted the program that
takes the sample from its slot exactly if the mount was commanded, or the sample is among those
that have left the queue since.  If no sample waits, this is always so; if the queue is served in
time, it is so only then. -/
theorem recorded_fetched_iff (n : Nat) (moves : List Move) (label : Option String) (id : String)
    (hnew : ((Changer.ofSize n).run moves).mounted ≠ some id)
    (hset : (((Changer.ofSize n).run moves).step (.message .ok label)).mounted = some id) :
    ∃ before enter carry, UnderWay (Changer.ofSize n) moves before enter carry ∧
      let began := (Changer.ofSize n).run before
      let waiting := ((Changer.ofSize n).run moves).chained
      (began.Fetched id (enter :: carry) ↔
          enter.isCommand = true ∨ id ∈ (began.step enter).chained.take (deliveries carry)) ∧
        (waiting = [] → began.Fetched id (enter :: carry)) ∧
        (Orderly (Changer.ofSize n) moves →
          (began.Fetched id (enter :: carry) ↔ waiting = [])) := by
  obtain ⟨hs, htarget⟩ :=
    Changer.mounting_of_recorded ((Consistent.ofSize n).run moves) hnew hset
  rcases Changer.exists_underWay hs with halong | ⟨before, enter, carry, hunder⟩
  · exact absurd halong.head State.noConfusion
  refine ⟨before, enter, carry, hunder, ?_⟩
  have hbegan : Consistent ((Changer.ofSize n).run before) := (Consistent.ofSize n).run before
  obtain ⟨wanted, hwanted, hiff, hserved, halone⟩ :=
    Changer.fetched_iff hbegan hunder.away hunder.stays
  have hrun := hunder.run_eq
  have hid : wanted = id := by
    rw [hrun, hwanted] at htarget
    exact Option.some.inj htarget
  subst hid
  intro began waiting
  have hwaiting : waiting = ((began.step enter).run carry).chained := congrArg Changer.chained hrun
  rw [hwaiting]
  exact ⟨hiff, hserved, fun ho => halone (hunder.chained_eq_nil ho)⟩

/-- Two samples are loaded, the first is mounted, and a switch to the second is started. -/
def switchStarted : List Move :=
  loadOne ++ loadOne ++
    [.command (.mount "@0") willing, .message .ok none, .command (.mount "@1") willing]

/-- The first half of the switch is acknowledged, and the second sample is delivered. -/
def switchServed : List Move := switchStarted ++ [.message .ok none, .deliver willing]

theorem recorded_fetched_iff_served :
    ((Changer.ofSize 2).run switchServed).mounted ≠ some "@1" ∧
      (((Changer.ofSize 2).run switchServed).step (.message .ok none)).mounted = some "@1" ∧
      Orderly (Changer.ofSize 2) switchServed ∧
      ((Changer.ofSize 2).run switchServed).chained = [] ∧
      ∃ before enter carry, UnderWay (Changer.ofSize 2) switchServed before enter carry ∧
        let began := (Changer.ofSize 2).run before
        (began.Fetched "@1" (enter :: carry) ↔
            enter.isCommand = true ∨ "@1" ∈ (began.step enter).chained.take (deliveries carry)) ∧
          began.Fetched "@1" (enter :: carry) := by
  have hnew : ((Changer.ofSize 2).run switchServed).mounted ≠ some "@1" := by decide +kernel
  have hset : (((Changer.ofSize 2).run switchServed).step (.message .ok none)).mounted
      = some "@1" := by
    decide +kernel
  have horderly : Orderly (Changer.ofSize 2) switchServed := by decide +kernel
  have hempty : ((Changer.ofSize 2).run switchServed).chained = [] := by decide +kernel
  obtain ⟨before, enter, carry, hunder, hiff, -, honly⟩ :=
    recorded_fetched_iff 2 switchServed none "@1" hnew hset
  exact ⟨hnew, hset, horderly, hempty, before, enter, carry, hunder, hiff,
    (honly horderly).mpr hempty⟩

/-- The first half of a switch is acknowledged twice.  The second time, the next sample is recorded
as mounted, while no program was started since its mount began. -/
theorem doubled_acknowledgement_records_unfetched :
    let moves := switchStarted ++ [.message .ok none]
    UnderWay (Changer.ofSize 2) moves switchStarted (.message .ok none) [] ∧
      ((Changer.ofSize 2).run moves).mounted = none ∧
      (((Changer.ofSize 2).run moves).step (.message .ok none)).mounted = some "@1" ∧
      ¬((Changer.ofSize 2).run switchStarted).Fetched "@1" [.message .ok none] := by
  have haway : ((Changer.ofSize 2).run switchStarted).state ≠ .mounting := by decide +kernel
  have hstays : (((Changer.ofSize 2).run switchStarted).step (.message .ok none)).state
      = .mounting := by
    decide +kernel
  refine ⟨⟨rfl, haway, hstays⟩, by decide +kernel, by decide +kernel, ?_⟩
  rintro (⟨slot, hcalls, -⟩ | hnil)
  · cases hcalls
  · exact hnil

end Autosampler

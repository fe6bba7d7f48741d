import Autosampler.Proofs.Consistency

/-!
# Samples that wait for their mount

A completed switch leaves its sample waiting, and some later step delivers it.  The delivery asks
only whether a mount is under way, not whose mount it is.

* `Changer.Acts`, `Changer.Idle` — a delivery that goes on with the mount of its own sample, and
  one without any effect;
* `Changer.acts_or_idle_iff` — a delivery is one of the two unless a mount of another sample is
  under way;
* `Orderly`, `Prompt` — runs in which nothing ends a mount while a sample waits, and what they
  make of the queue;
* `delivery_acts_or_idle_iff` — both of this over whole runs.
-/

namespace Autosampler

namespace Changer

variable {c : Changer} {id : String} {rest : List String} {answer : Order → Answer}

/-! ### What a delivery should do -/

/-- The delivery of `id` goes on with the mount of `id`: the program for its slot is asked for.
If the sample is not stored any more or the robot refuses, the changer falls back to home. -/
def Acts (c : Changer) (id : String) (answer : Order → Answer) : Prop :=
  c.state = .mounting ∧ c.machine.mountTarget = some id ∧
    match c.magazine.slotOf? id with
    | none =>
      c.calls (.deliver answer) = [] ∧ c.step (.deliver answer) = c.untied.abort .home
    | some slot =>
      let order := Order.run (Program.mount slot).fileName "mount"
      c.calls (.deliver answer) = [(order, answer order)] ∧
        c.step (.deliver answer)
          = match answer order with
            | .ok _ => { c.untied with pending := some (.mount slot) }
            | .error _ => c.untied.abort .home

/-- The delivery changes nothing, and nothing is asked of the robot. -/
def Idle (c : Changer) (answer : Order → Answer) : Prop :=
  c.calls (.deliver answer) = [] ∧ c.step (.deliver answer) = c.untied

/-! ### What it does -/

theorem idle_of_elsewhere (hw : c.chained = id :: rest) (hs : c.state ≠ .mounting) :
    Idle c answer := by
  have hupshot := c.delivered answer
  unfold Idle
  generalize c.step (.deliver answer) = after, c.calls (.deliver answer) = asked at hupshot
  cases hupshot with
  | nothing empty => rw [hw] at empty; cases empty
  | aside _ _ => exact ⟨rfl, rfl⟩
  | missing _ mounting _ => exact absurd mounting hs
  | started _ mounting _ _ => exact absurd mounting hs
  | refused _ mounting _ _ => exact absurd mounting hs

theorem acts_of_target (hw : c.chained = id :: rest) (hs : c.state = .mounting)
    (ht : c.machine.mountTarget = some id) (answer : Order → Answer) : Acts c id answer := by
  refine ⟨hs, ht, ?_⟩
  have hupshot := c.delivered answer
  generalize c.step (.deliver answer) = after, c.calls (.deliver answer) = asked at hupshot
  cases hupshot with
  | nothing empty => rw [hw] at empty; cases empty
  | aside _ elsewhere => exact absurd hs elsewhere
  | missing waits _ gone =>
    rw [hw] at waits
    cases waits
    rw [gone]
    exact ⟨rfl, rfl⟩
  | started waits _ stored accepted =>
    rw [hw] at waits
    cases waits
    rw [stored]
    dsimp only
    rw [accepted]
    exact ⟨rfl, rfl⟩
  | refused waits _ stored answered =>
    rw [hw] at waits
    cases waits
    rw [stored]
    dsimp only
    rw [answered]
    exact ⟨rfl, rfl⟩

/-- During any mount, a delivery has an effect: a program is asked for, or the mount is over. -/
theorem not_idle_of_mounting (hw : c.chained = id :: rest) (hs : c.state = .mounting) :
    ¬Idle c answer := by
  have hupshot := c.delivered answer
  unfold Idle
  generalize c.step (.deliver answer) = after, c.calls (.deliver answer) = asked at hupshot
  rintro ⟨hasked, hafter⟩
  cases hupshot with
  | nothing empty => rw [hw] at empty; cases empty
  | aside _ elsewhere => exact absurd hs elsewhere
  | missing _ _ _ =>
    have hstate : State.home = c.state := congrArg Changer.state hafter
    rw [hs] at hstate
    cases hstate
  | started _ _ _ _ => cases hasked
  | refused _ _ _ _ => cases hasked

/-- A delivery goes on with the mount of its sample or has no effect, exactly if no mount of
another sample is under way. -/
theorem acts_or_idle_iff (hw : c.chained = id :: rest) :
    (Acts c id answer ∨ Idle c answer) ↔
      (c.state = .mounting → c.machine.mountTarget = some id) := by
  constructor
  · rintro (hacts | hidle) hs
    · exact hacts.2.1
    · exact absurd hidle (not_idle_of_mounting hw hs)
  · intro htarget
    by_cases hs : c.state = .mounting
    · exact Or.inl (acts_of_target hw hs (htarget hs) answer)
    · exact Or.inr (idle_of_elsewhere hw hs)

/-! ### The queue -/

/-- A message leaves a sample waiting only when it completes a switch, whose mount is then under
way. -/
theorem hear_chained (h : Consistent c) (message : Message) (label : Option String) :
    (c.hear message label).chained = c.chained ∨
      ∃ next, (c.hear message label).chained = c.chained ++ [next] ∧
        (c.hear message label).state = .mounting ∧
        (c.hear message label).machine.mountTarget = some next := by
  by_cases hm : message = .ok
  · subst hm
    have hupshot := h.acknowledged label
    generalize c.hear .ok label = after at hupshot
    cases hupshot with
    | rest _ => exact Or.inl rfl
    | early _ => exact Or.inl rfl
    | switch _ _ => exact Or.inr ⟨_, rfl, rfl, rfl⟩
    | home hbusy _ _ _ =>
      obtain ⟨magazine, mounted, hack⟩ := acknowledge_eq hbusy h.settled
      rw [hack]
      exact Or.inl rfl
    | homeMounted hbusy _ =>
      obtain ⟨magazine, mounted, hack⟩ := acknowledge_eq hbusy h.settled
      rw [hack]
      exact Or.inl rfl
  · obtain ⟨machine, magazine, pending, told, heq⟩ := hear_of_ne_ok h.settled hm label
    rw [heq]
    exact Or.inl rfl

/-- No command leaves a sample waiting, and none takes one away. -/
theorem command_chained (c : Changer) (command : Command) (answer : Order → Answer) :
    ((c.command command).carryOut answer).changer.chained = c.chained := by
  have hupshot := command_upshot c command answer
  generalize (c.command command).carryOut answer = carried at hupshot
  cases hupshot with
  | quiet _ _ => rfl
  | reset _ =>
    simp only [reset, abort]
    split <;> rfl
  | started _ _ _ => rfl
  | refused _ _ _ => rfl

end Changer

/-! ### Runs that serve the queue in time -/

/-- While a sample waits, nothing but its delivery ends the mount that it waits for. -/
def Orderly : Changer → List Move → Prop
  | _, [] => True
  | c, move :: moves =>
    (c.chained ≠ [] → move.isDelivery = true ∨ (c.step move).state = .mounting) ∧
      Orderly (c.step move) moves

instance Orderly.decidable : (c : Changer) → (moves : List Move) → Decidable (Orderly c moves)
  | _, [] => .isTrue trivial
  | c, move :: moves =>
    have := Orderly.decidable (c.step move) moves
    inferInstanceAs (Decidable ((c.chained ≠ [] → move.isDelivery = true ∨
      (c.step move).state = .mounting) ∧ Orderly (c.step move) moves))

/-- At most one sample waits, and its own mount is under way. -/
def Prompt (c : Changer) : Prop :=
  c.chained = [] ∨ ∃ id, c.chained = [id] ∧ c.state = .mounting ∧ c.machine.mountTarget = some id

namespace Prompt

variable {c : Changer}

/-- With nothing waiting, a step leaves at most the sample of a switch that it completes. -/
theorem step_of_nil (h : Consistent c) (hnil : c.chained = []) (move : Move) :
    Prompt (c.step move) := by
  cases move with
  | command command answer =>
    left
    simp only [Changer.step]
    rw [Changer.command_chained, hnil]
  | message message label =>
    rcases Changer.hear_chained h message label with heq | ⟨next, heq, hs, ht⟩
    · exact Or.inl (heq.trans hnil)
    · rw [hnil] at heq
      exact Or.inr ⟨next, heq, hs, ht⟩
  | deliver answer =>
    left
    have hupshot := c.delivered answer
    generalize c.step (.deliver answer) = after, c.calls (.deliver answer) = asked at hupshot
    cases hupshot with
    | nothing _ => exact hnil
    | aside waits _ => rw [hnil] at waits; cases waits
    | missing waits _ _ => rw [hnil] at waits; cases waits
    | started waits _ _ _ => rw [hnil] at waits; cases waits
    | refused waits _ _ _ => rw [hnil] at waits; cases waits

/-- With a sample waiting in its mount, a step that neither delivers it nor ends the mount keeps
it waiting. -/
theorem step_of_mounting {id : String} (h : Consistent c) (hw : c.chained = [id])
    (hs : c.state = .mounting) (ht : c.machine.mountTarget = some id) {move : Move}
    (hmove : move.isDelivery = true ∨ (c.step move).state = .mounting) :
    Prompt (c.step move) := by
  cases move with
  | command command answer =>
    have hstays : (c.step (.command command answer)).state = .mounting :=
      hmove.resolve_left Bool.noConfusion
    obtain ⟨cursor, heq⟩ := Changer.command_of_mounting hs command answer hstays
    rw [Changer.step, heq]
    exact Or.inr ⟨id, hw, hs, ht⟩
  | message message label =>
    have hstays : (c.step (.message message label)).state = .mounting :=
      hmove.resolve_left Bool.noConfusion
    have hscan : c.state.scanning = false := by rw [hs]; rfl
    obtain ⟨magazine, pending, heq⟩ :=
      Changer.hear_of_not_scanning hscan (h.ne_ok_of_mounting hs hstays) label
    rw [Changer.step, heq]
    exact Or.inr ⟨id, hw, hs, ht⟩
  | deliver answer =>
    left
    have hrest : c.untied.chained = [] := by rw [Changer.untied, hw]; rfl
    have hupshot := c.delivered answer
    generalize c.step (.deliver answer) = after, c.calls (.deliver answer) = asked at hupshot
    cases hupshot with
    | nothing empty => rw [hw] at empty; cases empty
    | aside _ _ => exact hrest
    | missing _ _ _ => exact hrest
    | started _ _ _ _ => exact hrest
    | refused _ _ _ _ => exact hrest

theorem run (h : Consistent c) (hp : Prompt c) {moves : List Move} (ho : Orderly c moves) :
    Prompt (c.run moves) := by
  induction moves generalizing c with
  | nil => exact hp
  | cons move moves ih =>
    refine ih (h.step move) ?_ ho.2
    rcases hp with hnil | ⟨id, hw, hs, ht⟩
    · exact step_of_nil h hnil move
    · exact step_of_mounting h hw hs ht (ho.1 (by rw [hw]; exact List.cons_ne_nil _ _))

end Prompt

/-- **When a waiting sample is served rightly.**  In any run from an empty changer, the delivery
of a waiting sample goes on with the mount of that sample or changes nothing, exactly if no mount
of another sample is under way.  Runs in which nothing ends a mount before the delivery never get
into that situation: there, each delivery finds its own mount. -/
theorem delivery_acts_or_idle_iff (n : Nat) (moves : List Move) (id : String) (rest : List String)
    (answer : Order → Answer) (hw : ((Changer.ofSize n).run moves).chained = id :: rest) :
    let c := (Changer.ofSize n).run moves
    ((c.Acts id answer ∨ c.Idle answer) ↔
        (c.state = .mounting → c.machine.mountTarget = some id)) ∧
      (Orderly (Changer.ofSize n) moves → c.Acts id answer) := by
  refine ⟨Changer.acts_or_idle_iff hw, ?_⟩
  intro ho
  have hprompt := Prompt.run (Consistent.ofSize n) (Or.inl rfl) ho
  rcases hprompt with hnil | ⟨id', hw', hs, ht⟩
  · rw [hw] at hnil
    cases hnil
  · have hid : id' = id := by
      rw [hw] at hw'
      injection hw' with heq _
      exact heq.symm
    exact Changer.acts_of_target hw hs (hid ▸ ht) answer

/-- Two samples are loaded and the first is mounted.  The switch to the second is reset before the
robot heard of its mount, and the first is mounted again. -/
def overtakenSwitch : List Move :=
  loadOne ++ loadOne ++
    [.command (.mount "@0") willing, .message .ok none, .command (.mount "@1") willing,
     .message .ok none, .command .reset willing, .command (.mount "@0") willing]

/-- The same switch without the reset.  While the second sample waits, a slot is reported and a
command is refused. -/
def promptSwitch : List Move :=
  loadOne ++ loadOne ++
    [.command (.mount "@0") willing, .message .ok none, .command (.mount "@1") willing,
     .message .ok none, .message (.slot 1 true) none, .command .load willing]

/-- In time, the delivery asks for the program of the second sample; overtaken, it comes into a mount
of the first. -/
theorem delivery_acts_or_idle_iff_switch :
    let prompt := (Changer.ofSize 2).run promptSwitch
    let overtaken := (Changer.ofSize 2).run overtakenSwitch
    (prompt.chained = ["@1"] ∧ Orderly (Changer.ofSize 2) promptSwitch ∧
        prompt.Acts "@1" willing ∧
        prompt.calls (.deliver willing) = [(.run (Program.mount 1).fileName "mount", .ok ())] ∧
        (prompt.step (.deliver willing)).pending = some (.mount 1)) ∧
      overtaken.chained = ["@1"] ∧
        ((overtaken.Acts "@1" willing ∨ overtaken.Idle willing) ↔
          (overtaken.state = .mounting → overtaken.machine.mountTarget = some "@1")) ∧
        (Orderly (Changer.ofSize 2) overtakenSwitch → overtaken.Acts "@1" willing) := by
  have hwaits : ((Changer.ofSize 2).run promptSwitch).chained = ["@1"] := by decide +kernel
  have horderly : Orderly (Changer.ofSize 2) promptSwitch := by decide +kernel
  have hstored : ((Changer.ofSize 2).run promptSwitch).magazine.slotOf? "@1" = some 1 := by
    decide +kernel
  have hacts := (delivery_acts_or_idle_iff 2 promptSwitch "@1" [] willing hwaits).2 horderly
  have hovertaken : ((Changer.ofSize 2).run overtakenSwitch).chained = ["@1"] := by decide +kernel
  refine ⟨⟨hwaits, horderly, hacts, ?_⟩, hovertaken,
    delivery_acts_or_idle_iff 2 overtakenSwitch "@1" [] willing hovertaken⟩
  obtain ⟨-, -, hdelivery⟩ := hacts
  rw [hstored] at hdelivery
  exact ⟨hdelivery.1, congrArg Changer.pending hdelivery.2⟩

/-- A sample left from a switch that was reset ends the mount of another one. -/
theorem overtaken_delivery_ends_mount :
    let c := (Changer.ofSize 2).run overtakenSwitch
    c.chained = ["@1"] ∧ c.state = .mounting ∧ c.machine.mountTarget = some "@0" ∧
      (c.step (.deliver willing)).state = .home ∧
      ¬(c.Acts "@1" willing ∨ c.Idle willing) := by
  have hw : ((Changer.ofSize 2).run overtakenSwitch).chained = ["@1"] := by decide +kernel
  have hs : ((Changer.ofSize 2).run overtakenSwitch).state = .mounting := by decide +kernel
  have ht : ((Changer.ofSize 2).run overtakenSwitch).machine.mountTarget = some "@0" := by
    decide +kernel
  refine ⟨hw, hs, ht, by decide +kernel, ?_⟩
  rw [Changer.acts_or_idle_iff hw]
  intro htarget
  have hsame := htarget hs
  rw [ht] at hsame
  exact absurd hsame (by decide)

end Autosampler

import Autosampler.Proofs.Consistency
import Autosampler.Proofs.Uniqueness
import Mathlib.Logic.Basic

/-!
# Which step changes which slot

A step makes at most one call on the magazine.  An unload takes a sample out by its name and not by
its slot, and a load is noted under the placeholder of its slot, so both hit the right slot only as
long as the magazine is tidy.  It is, if no label reads like a placeholder.

* `Changer.change?`, `Changer.step_slots` — the call that a step makes;
* `Move.Legible` — what is read is no placeholder;
* `Stocked`, `Stocked.run` — the invariant: a tidy magazine, and a pending program inside of it;
* `Changer.due?` — the only slot that a step may change;
* `Rightful` — a step changes that slot, and leaves in it what it should;
* `rightful_step` — every step of every run is of this kind.
-/

namespace Autosampler

namespace Changer

variable {c : Changer} {p : Plan} {label : Option String} {answer : Order → Answer}

/-! ### The call that a step makes -/

/-- The call on the magazine that a step makes. -/
def change? (c : Changer) : Move → Option Change
  | .message (.slot number present) _ =>
    if c.magazine.size < number ∨ c.reserved (number - 1) then none
    else some (.presence (number - 1) present)
  | .message (.qr number) (some id) =>
    if c.magazine.size < number ∨ c.reserved (number - 1) then none
    else if c.state = .movingToScanPos ∨ c.state = .movingToScanPosMounted then
      some (.update (number - 1) id)
    else none
  | .message .ok _ =>
    match c.pending with
    | some (.load slot) => some (.insert slot (placeholder slot))
    | some (.unload slot) =>
      match c.magazine.sampleAt slot with
      | .ok (some id) => some (.remove id)
      | _ => none
    | _ => none
  | .command .stop answer =>
    match answer .stop with
    | .ok _ => c.dropped.map .remove
    | .error _ => none
  | .command .reset _ => c.dropped.map .remove
  | _ => none

/-- Which step makes which call. -/
inductive Makes (c : Changer) : Move → Change → Prop
  | reported {number : Nat} {present : Bool} {label : Option String} :
      Makes c (.message (.slot number present) label) (.presence (number - 1) present)
  | read {number : Nat} {id : String}
      (scanning : c.state = .movingToScanPos ∨ c.state = .movingToScanPosMounted) :
      Makes c (.message (.qr number) (some id)) (.update (number - 1) id)
  | loaded {slot : Nat} {label : Option String} (pending : c.pending = some (.load slot)) :
      Makes c (.message .ok label) (.insert slot (placeholder slot))
  | unloaded {slot : Nat} {id : String} {label : Option String}
      (pending : c.pending = some (.unload slot)) (held : c.magazine.slots[slot]? = some id) :
      Makes c (.message .ok label) (.remove id)
  | stopped {id : String} {answer : Order → Answer} (dropped : c.dropped = some id) :
      Makes c (.command .stop answer) (.remove id)
  | reset {id : String} {answer : Order → Answer} (dropped : c.dropped = some id) :
      Makes c (.command .reset answer) (.remove id)

theorem makes {move : Move} {change : Change} (h : c.change? move = some change) :
    Makes c move change := by
  unfold change? at h
  split at h
  · split at h <;> cases h
    exact .reported
  · split at h
    · cases h
    split at h <;> cases h
    exact .read ‹_›
  · split at h
    · cases h
      exact .loaded ‹_›
    · split at h <;> cases h
      exact .unloaded ‹_› (Magazine.sampleAt_eq_some.mp ‹_›).1
    · cases h
  · split at h
    · obtain ⟨id, hdropped, rfl⟩ := Option.map_eq_some_iff.mp h
      exact .stopped hdropped
    · cases h
  · obtain ⟨id, hdropped, rfl⟩ := Option.map_eq_some_iff.mp h
    exact .reset hdropped
  · cases h

theorem adopt_magazine (change : Except MagazineError Magazine) :
    (c.adopt change).1.magazine = c.magazine.orKeep change := by
  cases change <;> rfl

theorem notePresence_magazine (slot : Nat) (present : Bool) :
    (c.notePresence slot present).1.magazine
      = if c.reserved slot then c.magazine else c.magazine.apply (.presence slot present) := by
  unfold notePresence
  split
  · rfl
  · exact adopt_magazine _

theorem noteSample_magazine (slot : Nat) (id : String) :
    (c.noteSample slot id).1.magazine
      = if c.reserved slot then c.magazine else c.magazine.apply (.update slot id) := by
  unfold noteSample
  split
  · rfl
  · exact adopt_magazine _

theorem hear_slot_magazine (number : Nat) (present : Bool) :
    (c.hear (.slot number present) label).magazine
      = c.magazine.applyAll (c.change? (.message (.slot number present) label)).toList := by
  rw [hear_slot, change?]
  by_cases hlt : c.magazine.size < number
  · rw [if_pos hlt, if_pos (Or.inl hlt)]
    rfl
  · rw [if_neg hlt]
    show (c.notePresence (number - 1) present).1.magazine = _
    rw [notePresence_magazine]
    by_cases hr : c.reserved (number - 1) = true
    · rw [if_pos hr, if_pos (Or.inr hr)]
      rfl
    · rw [if_neg hr, if_neg (not_or.mpr ⟨hlt, hr⟩)]
      rfl

theorem hear_code_magazine (number : Nat) :
    (c.hear (.qr number) label).magazine
      = c.magazine.applyAll (c.change? (.message (.qr number) label)).toList := by
  rw [hear_code]
  by_cases hlt : c.magazine.size < number
  · rw [if_pos hlt]
    cases label with
    | none => rfl
    | some id => rw [change?, if_pos (Or.inl hlt)]; rfl
  rw [if_neg hlt]
  by_cases hs : c.state = .movingToScanPos ∨ c.state = .movingToScanPosMounted
  · rw [if_pos hs]
    cases label with
    | none => rfl
    | some id =>
      -- the step to the slot leaves mounted sample and magazine alone
      show ((c.advance .atScanPos).noteSample (number - 1) id).1.magazine = _
      rw [noteSample_magazine]
      show (if c.reserved (number - 1) = true then c.magazine
        else c.magazine.apply (.update (number - 1) id)) = _
      by_cases hr : c.reserved (number - 1) = true
      · rw [if_pos hr, change?, if_pos (Or.inr hr)]
        rfl
      · rw [if_neg hr, change?, if_neg (not_or.mpr ⟨hlt, hr⟩), if_pos hs]
        rfl
  · rw [if_neg hs]
    cases label with
    | none => rfl
    | some id => rw [change?, if_neg hs, ite_self]; rfl

/-- Without a load or an unload on the way, an acknowledgement leaves the magazine alone. -/
theorem acknowledge_magazine (hload : ∀ slot, c.pending ≠ some (.load slot))
    (hunload : ∀ slot, c.pending ≠ some (.unload slot)) : c.acknowledge.magazine = c.magazine := by
  have hl : c.finishLoad.1.magazine = c.magazine := by
    unfold finishLoad
    split
    · rename_i slot hp
      exact absurd hp (hload slot)
    · rfl
  have hu : c.finishUnload.1.magazine = c.magazine := by
    unfold finishUnload
    split
    · rename_i slot hp
      exact absurd hp (hunload slot)
    · rfl
  have hm : c.finishMount.1.magazine = c.magazine := by
    unfold finishMount
    split <;> rfl
  unfold acknowledge
  split <;> first | exact hl | exact hu | exact hm | rfl

theorem hear_ok_magazine (h : Consistent c) :
    (c.hear .ok label).magazine
      = c.magazine.applyAll (c.change? (.message .ok label)).toList := by
  rw [hear_ok, dispatch_ok h.tag]
  show c.acknowledge.magazine = _
  cases hp : c.pending with
  | none =>
    rw [acknowledge_magazine (by simp [hp]) (by simp [hp])]
    simp only [change?, hp]
    rfl
  | some program =>
    have hruns := h.pending program hp
    cases program with
    | load slot =>
      have hs : c.state = .loading ∨ c.state = .loadingMounted := by
        cases hs : c.state <;> rw [hs] at hruns <;> simp_all [State.Runs]
      have hack : c.acknowledge = c.finishLoad.1 := by
        rcases hs with hs | hs <;> simp only [acknowledge, hs]
      simp only [hack, finishLoad, hp, adopt_magazine, change?]
      rfl
    | unload slot =>
      have hs : c.state = .unloading ∨ c.state = .unloadingMounted := by
        cases hs : c.state <;> rw [hs] at hruns <;> simp_all [State.Runs]
      have hack : c.acknowledge = c.finishUnload.1 := by
        rcases hs with hs | hs <;> simp only [acknowledge, hs]
      simp only [hack, finishUnload, hp, change?]
      cases hheld : c.magazine.sampleAt slot with
      | error e => rfl
      | ok held =>
        cases held with
        | none => rfl
        | some id =>
          simp only [adopt_magazine]
          show c.magazine.orKeep ((c.magazine.remove id).map Prod.fst) = c.magazine.without id
          unfold Magazine.without
          cases c.magazine.remove id <;> rfl
    | _ =>
      rw [acknowledge_magazine (by simp [hp]) (by simp [hp])]
      simp only [change?, hp]
      rfl

theorem hear_magazine (h : Consistent c) (message : Message) (label : Option String) :
    (c.hear message label).magazine
      = c.magazine.applyAll (c.change? (.message message label)).toList := by
  cases message with
  | slot number present => exact hear_slot_magazine number present
  | qr number => exact hear_code_magazine number
  | get key => rfl
  | ok => exact hear_ok_magazine h
  | error text => rcases hear_error_eq (c := c) text label with heq | heq <;> rw [heq] <;> rfl

/-- A command with a plan moves the round through the slots at most. -/
theorem slots_of_plan {command : Command} (h : command ∉ [.stop, .pause, .play, .reset]) :
    ((c.command command).carryOut answer).changer.magazine.slots = c.magazine.slots := by
  obtain ⟨cursor, hcursor⟩ := plan_fst c command
  rw [command_eq_plan h]
  cases hplan : c.plan command with
  | mk c' planned =>
    have hc' : c' = c.turn cursor := by rw [← hcursor, hplan]
    subst hc'
    match planned with
    | .error e => rfl
    | .ok none => rfl
    | .ok (some p) =>
      dsimp only
      rw [execute_of_planned (planned_of_plan hplan)]
      simp only [Action.map, Action.carryOut]
      cases answer (.run p.program.fileName p.tag) <;> rfl

/-- A reset takes the dropped sample out, if there is one, and leaves the magazine alone else. -/
theorem reset_magazine (c : Changer) :
    c.reset.1.magazine = c.magazine.applyAll (c.dropped.map .remove).toList := by
  unfold reset abort
  by_cases ht : c.state.inTransit = true
  · rw [if_pos ht]
    cases c.dropped <;> rfl
  · have hnone : c.dropped = none := by
      cases hs : c.state <;> simp_all [State.inTransit, dropped]
    rw [if_neg ht, hnone]
    rfl

theorem command_slots (c : Changer) (command : Command) (answer : Order → Answer) :
    ((c.command command).carryOut answer).changer.magazine.slots
      = (c.magazine.applyAll (c.change? (.command command answer)).toList).slots := by
  cases command with
  | stop =>
    simp only [Changer.command, order, Action.carryOut, change?]
    cases answer .stop with
    | ok u => exact congrArg Magazine.slots c.reset_magazine
    | error reason => rfl
  | reset =>
    simp only [Changer.command, order, Action.carryOut, change?]
    cases answer (.run Program.reset.fileName "reset") <;>
      exact congrArg Magazine.slots c.reset_magazine
  | pause =>
    simp only [Changer.command, order, Action.carryOut]
    cases answer .pause <;> rfl
  | play =>
    simp only [Changer.command, order, Action.carryOut]
    cases answer .play <;> rfl
  | _ => exact slots_of_plan (by simp)

/-- Every step makes its call on the magazine, and nothing else happens to the slots. -/
theorem step_slots (h : Consistent c) (move : Move) :
    (c.step move).magazine.slots = (c.magazine.applyAll (c.change? move).toList).slots := by
  cases move with
  | command command answer => exact c.command_slots command answer
  | message message label => exact congrArg Magazine.slots (hear_magazine h message label)
  | deliver answer =>
    have hupshot := c.delivered answer
    generalize c.step (.deliver answer) = after, c.calls (.deliver answer) = asked at hupshot
    cases hupshot <;> rfl

/-! ### The pending program -/

theorem hear_pending (h : Consistent c) (message : Message) (label : Option String) :
    (c.hear message label).pending = c.pending ∨ (c.hear message label).pending = none := by
  rw [hear_pending_eq h.tag h.settled]
  cases message with
  | ok => exact ite_eq_or_eq _ _ _
  | error text => exact ite_eq_or_eq _ _ _
  | _ => exact Or.inl rfl

/-- The pending program, if it visits a slot, visits one of the magazine. -/
def PendingInside (c : Changer) : Prop :=
  ∀ program slot, c.pending = some program → program.slot? = some slot → slot < c.magazine.size

end Changer

open Changer

theorem Planned.slot_lt {c : Changer} {p : Plan} {slot : Nat} (h : Planned c p)
    (hslot : p.program.slot? = some slot) : slot < c.magazine.size := by
  have hstored {id : String} {k : Nat} (hk : c.magazine.slotOf? id = some k) :
      k < c.magazine.size :=
    Magazine.lt_size_of_held (Magazine.slotOf?_eq_some_iff.mp hk).2.1
  cases h with
  | load _ free =>
    cases hslot
    exact (List.idxOf?_eq_some_iff.mp free).1
  | unload _ _ stored => cases hslot; exact hstored stored
  | scan _ => cases hslot
  | mount _ stored => cases hslot; exact hstored stored
  | switch _ _ _ stored _ => cases hslot; exact hstored stored
  | unmount _ _ stored => cases hslot; exact hstored stored
  | run _ => cases hslot

namespace Changer

variable {c : Changer}

theorem PendingInside.of_none {d : Changer} (hp : d.pending = none) : d.PendingInside := by
  intro program slot hprogram
  rw [hp] at hprogram
  cases hprogram

theorem PendingInside.of_same {d : Changer} (h : c.PendingInside) (hp : d.pending = c.pending)
    (hsize : d.magazine.size = c.magazine.size) : d.PendingInside := by
  intro program slot hprogram hslot
  rw [hsize]
  exact h program slot (hp ▸ hprogram) hslot

theorem step_size (h : Consistent c) (move : Move) :
    (c.step move).magazine.size = c.magazine.size := by
  rw [Magazine.size, step_slots h move]
  exact c.magazine.size_applyAll _

theorem run_size (h : Consistent c) (moves : List Move) :
    (c.run moves).magazine.size = c.magazine.size := by
  induction moves generalizing c with
  | nil => rfl
  | cons move moves ih => exact (ih (h.step move)).trans (step_size h move)

theorem PendingInside.step (h : c.PendingInside) (hc : Consistent c) (move : Move) :
    (c.step move).PendingInside := by
  have hsize := step_size hc move
  cases move with
  | command command answer =>
    have hupshot := command_upshot c command answer
    simp only [Changer.step] at hsize ⊢
    generalize (c.command command).carryOut answer = carried at hupshot hsize
    cases hupshot with
    | quiet cursor _ => exact h.of_same rfl rfl
    | reset _ => exact of_none rfl
    | started _ planned _ =>
      intro program slot hprogram hslot
      cases hprogram
      exact planned.slot_lt hslot
    | refused _ _ _ => exact of_none rfl
  | message message label =>
    rcases hear_pending hc message label with hp | hp
    · exact h.of_same hp hsize
    · exact of_none hp
  | deliver answer =>
    have hupshot := c.delivered answer
    generalize c.step (.deliver answer) = after, c.calls (.deliver answer) = asked at hupshot
    cases hupshot with
    | nothing _ => exact h
    | aside _ _ => exact h.of_same rfl rfl
    | missing _ _ _ => exact of_none rfl
    | started _ _ stored _ =>
      intro program slot hprogram hslot
      cases hprogram
      cases hslot
      exact Magazine.lt_size_of_held (Magazine.slotOf?_eq_some_iff.mp stored).2.1
    | refused _ _ _ _ => exact of_none rfl

end Changer

/-! ### The invariant -/

/-- The label that is read, if there is one, does not begin like a placeholder. -/
def Move.Legible : Move → Prop
  | .message _ (some id) => id.toList.head? ≠ some '@'
  | _ => True

/-- With legible labels, no slot gets the placeholder of another one. -/
theorem Changer.Makes.proper {c : Changer} {move : Move} {change : Change}
    (h : Makes c move change) (hm : move.Legible) : change.Proper := by
  cases h with
  | loaded _ => exact fun other hname => placeholder_injective hname
  | read _ =>
    intro other hname
    exact absurd hname (ne_placeholder_of_head hm other)
  | _ => trivial

/-- The magazine is tidy, and the pending program stays inside. -/
structure Stocked (c : Changer) : Prop where
  tidy : c.magazine.Tidy
  inside : c.PendingInside

namespace Stocked

variable {c : Changer} {slot : Nat} {id : String}

theorem step (h : Stocked c) (hc : Consistent c) {move : Move} (hm : move.Legible) :
    Stocked (c.step move) where
  tidy := by
    refine Magazine.Tidy.of_slots (h.tidy.applyAll ?_) (Changer.step_slots hc move)
    intro change hchange
    exact (Changer.makes (Option.mem_toList.mp hchange)).proper hm
  inside := h.inside.step hc move

theorem run (h : Stocked c) (hc : Consistent c) {moves : List Move}
    (hm : ∀ move ∈ moves, move.Legible) : Stocked (c.run moves) := by
  induction moves generalizing c with
  | nil => exact h
  | cons move moves ih =>
    have hfirst := h.step hc (hm move List.mem_cons_self)
    exact ih hfirst (hc.step move) fun later hlater => hm later (List.mem_cons_of_mem _ hlater)

theorem ofSize (n : Nat) : Stocked (Changer.ofSize n) where
  tidy := .ofSize n
  inside := .of_none rfl

end Stocked

/-! ### The slot that may change -/

/-- The only slot that a step may change. -/
def Changer.due? (c : Changer) : Move → Option Nat
  | .message (.slot number _) _ => some (number - 1)
  | .message (.qr number) _ =>
    if c.state = .movingToScanPos ∨ c.state = .movingToScanPosMounted then some (number - 1)
    else none
  | .message .ok _ =>
    match c.state, c.pending with
    | .loading, some (.load slot) | .loadingMounted, some (.load slot)
    | .unloading, some (.unload slot) | .unloadingMounted, some (.unload slot) => some slot
    | _, _ => none
  | .command .stop _ | .command .reset _ => c.dropped.bind c.magazine.slotOf?
  | _ => none

/-- The arm is stopped by this step. -/
def Move.Halts : Move → Prop
  | .command .reset _ => True
  | .command .stop answer => answer .stop = .ok ()
  | _ => False

/-- A step changes the slot that is due and no other one.  A loaded slot is occupied afterwards; an
unloaded slot, and the slot of a sample that dropped, is empty. -/
structure Rightful (c : Changer) (move : Move) : Prop where
  only : ∀ slot : Nat, (c.step move).magazine.slots[slot]? ≠ c.magazine.slots[slot]? →
    c.due? move = some slot
  loaded : ∀ slot label, move = .message .ok label → c.pending = some (.load slot) →
    ∃ id, (c.step move).magazine.slots[slot]? = some id ∧ id ≠ ""
  unloaded : ∀ slot label, move = .message .ok label → c.pending = some (.unload slot) →
    (c.step move).magazine.slots[slot]? = some ""
  dropped : ∀ slot, move.Halts → c.due? move = some slot →
    (c.step move).magazine.slots[slot]? = some ""

namespace Stocked

variable {c : Changer} {slot : Nat} {move : Move} {change : Change}

/-- The call of a step reaches the slot that is due and no other one. -/
theorem due_of_reaches (h : Stocked c) (hc : Consistent c) (hmakes : Changer.Makes c move change)
    (hr : change.Reaches c.magazine slot) : c.due? move = some slot := by
  cases hmakes with
  | reported => exact congrArg some hr.symm
  | read scanning =>
    rw [Changer.due?, if_pos scanning]
    exact congrArg some hr.symm
  | loaded pending =>
    have hruns := hc.pending _ pending
    cases hs : c.state <;> rw [hs] at hruns <;> cases hruns <;>
      simp only [Changer.due?, hs, pending] <;> exact congrArg some hr.symm
  | @unloaded taken id _ pending held =>
    have hruns := hc.pending _ pending
    obtain ⟨hid, hfirst, -⟩ := Magazine.slotOf?_eq_some_iff.mp hr
    have hsame := h.tidy.distinct taken slot id held hfirst hid
    cases hs : c.state <;> rw [hs] at hruns <;> cases hruns <;>
      simp only [Changer.due?, hs, pending, hsame]
  | stopped dropped =>
    rw [Changer.due?, dropped]
    exact hr
  | reset dropped =>
    rw [Changer.due?, dropped]
    exact hr

theorem only_due (h : Stocked c) (hc : Consistent c)
    (hchanged : (c.step move).magazine.slots[slot]? ≠ c.magazine.slots[slot]?) :
    c.due? move = some slot := by
  rw [Changer.step_slots hc move] at hchanged
  cases hchange : c.change? move with
  | none =>
    rw [hchange] at hchanged
    exact absurd rfl hchanged
  | some change =>
    rw [hchange] at hchanged
    apply h.due_of_reaches hc (Changer.makes hchange)
    apply Classical.byContradiction
    intro hout
    exact hchanged (Magazine.getElem?_apply hout)

/-- A load leaves its slot occupied: it was so before, or its placeholder is free. -/
theorem slots_loaded (h : Stocked c) (hc : Consistent c) (hp : c.pending = some (.load slot))
    (label : Option String) :
    ∃ id, (c.step (.message .ok label)).magazine.slots[slot]? = some id ∧ id ≠ "" := by
  have hlt : slot < c.magazine.size := h.inside _ slot hp rfl
  have hheld : c.magazine.slots[slot]? = some c.magazine.slots[slot] :=
    List.getElem?_eq_getElem hlt
  have hslots : (c.step (.message .ok label)).magazine.slots
      = (c.magazine.apply (.insert slot (placeholder slot))).slots := by
    rw [Changer.step_slots hc, Changer.change?, hp]
    rfl
  rw [hslots]
  by_cases hempty : c.magazine.slots[slot] = ""
  · have hfree : c.magazine.slotOf? (placeholder slot) = none := by
      rw [Magazine.slotOf?_eq_none_iff]
      refine Or.inr fun other hother => ?_
      rw [h.tidy.own other slot hother, hheld, hempty] at hother
      exact placeholder_ne_empty slot (Option.some.inj hother).symm
    refine ⟨placeholder slot, ?_, placeholder_ne_empty slot⟩
    rw [Magazine.apply_insert (by rw [hheld, hempty]) hfree (placeholder_ne_empty slot)]
    exact Magazine.getElem?_put_self hlt
  · refine ⟨c.magazine.slots[slot], ?_, hempty⟩
    rw [Magazine.apply_insert_of_occupied hheld hempty, hheld]

/-- An unload leaves its slot empty: the sample in it is found nowhere before. -/
theorem slots_unloaded (h : Stocked c) (hc : Consistent c) (hp : c.pending = some (.unload slot))
    (label : Option String) :
    (c.step (.message .ok label)).magazine.slots[slot]? = some "" := by
  have hlt : slot < c.magazine.size := h.inside _ slot hp rfl
  have hheld : c.magazine.slots[slot]? = some c.magazine.slots[slot] :=
    List.getElem?_eq_getElem hlt
  rw [Changer.step_slots hc, Changer.change?, hp]
  by_cases hempty : c.magazine.slots[slot] = ""
  · have hnone : c.magazine.sampleAt slot = .ok none := by
      rw [Magazine.sampleAt, hheld, hempty]
      rfl
    simp only [hnone]
    show c.magazine.slots[slot]? = some ""
    rw [hheld, hempty]
  · have hsample := Magazine.sampleAt_eq_some.mpr ⟨hheld, hempty⟩
    simp only [hsample]
    show (c.magazine.apply (.remove c.magazine.slots[slot])).slots[slot]? = some ""
    rw [Magazine.apply_remove (h.tidy.distinct.slotOf? hheld hempty)]
    exact Magazine.getElem?_put_self hlt

end Stocked

/-- The slot of a dropped sample is empty. -/
theorem Changer.slots_dropped {c : Changer} {move : Move} {slot : Nat} (hc : Consistent c)
    (hm : move.Halts) (hdue : c.due? move = some slot) :
    (c.step move).magazine.slots[slot]? = some "" := by
  have hdropped : c.change? move = c.dropped.map .remove ∧
      c.dropped.bind c.magazine.slotOf? = some slot := by
    unfold Move.Halts at hm
    split at hm
    · exact ⟨rfl, hdue⟩
    · rw [change?, hm]
      exact ⟨rfl, hdue⟩
    · exact hm.elim
  obtain ⟨hchange, hslot⟩ := hdropped
  obtain ⟨id, hid, hfound⟩ := Option.bind_eq_some_iff.mp hslot
  rw [Changer.step_slots hc, hchange, hid]
  show (c.magazine.apply (.remove id)).slots[slot]? = some ""
  rw [Magazine.apply_remove hfound]
  exact Magazine.getElem?_put_self
    (Magazine.lt_size_of_held (Magazine.slotOf?_eq_some_iff.mp hfound).2.1)

/-- **Every step keeps to its slot.**  In any run from an empty changer in which no label reads like
a placeholder, a step changes the slot that is due and no other one, and it leaves in it what it
should. -/
theorem rightful_step (n : Nat) (moves : List Move) (move : Move)
    (hlegible : ∀ m ∈ moves ++ [move], m.Legible) :
    Rightful ((Changer.ofSize n).run moves) move := by
  have hconsistent := (Consistent.ofSize n).run moves
  have hstocked := (Stocked.ofSize n).run (Consistent.ofSize n)
    fun m hm => hlegible m (List.mem_append_left [move] hm)
  exact {
    only := fun slot hchanged => hstocked.only_due hconsistent hchanged
    loaded := by
      rintro slot label rfl hp
      exact hstocked.slots_loaded hconsistent hp label
    unloaded := by
      rintro slot label rfl hp
      exact hstocked.slots_unloaded hconsistent hp label
    dropped := fun slot hm hdue => Changer.slots_dropped hconsistent hm hdue }

/-- A sample is loaded, identified by a scan, and on its way out under the name that was read. -/
def identifiedUnload : List Move :=
  loadOne ++ [.command .scan willing, .message (.qr 1) (some "A"), .message (.slot 1 true) none,
    .message .ok none, .command (.unload "A") willing]

theorem rightful_step_unload :
    (∀ m ∈ identifiedUnload ++ [.message .ok none], m.Legible) ∧
      ((Changer.ofSize 1).run identifiedUnload).pending = some (.unload 0) ∧
      ((Changer.ofSize 1).run identifiedUnload).magazine.slots = ["A"] ∧
      Rightful ((Changer.ofSize 1).run identifiedUnload) (.message .ok none) := by
  have hlegible : ∀ m ∈ identifiedUnload ++ [.message .ok none], m.Legible := by
    intro m hm
    simp only [identifiedUnload, loadOne, List.cons_append, List.nil_append, List.mem_cons,
      List.not_mem_nil, or_false] at hm
    rcases hm with rfl | rfl | rfl | rfl | rfl | rfl | rfl | rfl <;>
      first | trivial | exact (by decide : "A".toList.head? ≠ some '@')
  exact ⟨hlegible, by decide +kernel, by decide +kernel,
    rightful_step 1 identifiedUnload (.message .ok none) hlegible⟩

end Autosampler

import Autosampler.Proofs.Consistency
import Autosampler.Proofs.Slots

/-!
# The slot of the mounted sample

While a sample is mounted, its slot is really empty but stays reserved for its return.  A sample
that arrives at the measurement position with its slot secured keeps it as long as it is mounted;
otherwise the robot's reports can take the slot away.

* `KeepsSlot` — the slot stores the sample, the sample returns there, and nothing else is put there;
* `Guarded` — the invariant: the slot is secured, and no unload that was started takes it away;
* `Guarded.hear`, `Guarded.command`, `Guarded.deliver`, `Guarded.run` — steps and runs that keep it;
* `keepsSlot_iff_secures` — the slot is kept in every future exactly if it is secured.
-/

namespace Autosampler

/-- The changer with another text in a slot. -/
def Changer.shelve (c : Changer) (slot : Nat) (id : String) : Changer :=
  { c with magazine := c.magazine.put slot id }

/-- The slot of a mounted sample: it stores the sample, an unmount brings the sample back there,
and no sample is loaded there. -/
structure KeepsSlot (c : Changer) (slot : Nat) (id : String) : Prop where
  stored : c.magazine.slots[slot]? = some id
  unmount : c.state = .homeMounted →
    c.planUnmount = .ok ⟨.unmount slot, .unmount, "unmount", some id⟩
  load : ∀ p, c.planLoad = .ok p → p.program ≠ .load slot

/-- The slot of a mounted sample is secured.  An unload that was started does not find the sample
in its slot. -/
structure Guarded (c : Changer) (slot : Nat) (id : String) : Prop where
  secures : c.magazine.Secures slot id
  unload : ∀ x : Nat, c.pending = some (.unload x) → c.magazine.slots[x]? ≠ some id

namespace Guarded

variable {c : Changer} {slot other : Nat} {id new : String} {label : Option String}

theorem of_pending_eq_none (h : c.magazine.Secures slot id) (hp : c.pending = none) :
    Guarded c slot id := by
  refine ⟨h, ?_⟩
  intro x hx
  rw [hp] at hx
  cases hx

/-! ### Reports -/

theorem put (h : Guarded c slot id) (hother : c.magazine.slots[other]? ≠ some id)
    (hnew : new ≠ id) :
    Guarded (c.shelve other new) slot id := by
  refine ⟨h.secures.put hother hnew, ?_⟩
  intro x hx
  show (c.magazine.put other new).slots[x]? ≠ some id
  rw [Magazine.getElem?_put]
  split
  · intro heq
    cases heq
    exact hnew rfl
  · exact h.unload x hx

/-- A slot that is not reserved does not hold the mounted sample. -/
theorem ne_of_not_reserved (h : Guarded c slot id) (hm : c.mounted = some id)
    (hr : ¬c.reserved other = true) : c.magazine.slots[other]? ≠ some id := by
  intro heq
  exact hr (Changer.reserved_iff.mpr ⟨id, hm, heq, h.secures.ne_empty⟩)

theorem notePresence (h : Guarded c slot id) (hm : c.mounted = some id) (other : Nat)
    (present : Bool) :
    Guarded (c.notePresence other present).1 slot id := by
  unfold Changer.notePresence
  split
  · exact h
  rename_i hr
  have hother := h.ne_of_not_reserved hm hr
  cases hheld : c.magazine.slots[other]? with
  | none =>
    simp only [Magazine.setPresence, hheld, Except.map, Changer.adopt]
    exact h
  | some held =>
    have hne : held ≠ id := by
      rintro rfl
      exact hother hheld
    rw [Magazine.setPresence_fst hheld]
    exact h.put hother (h.secures.sight_ne hheld hne present)

theorem noteSample (h : Guarded c slot id) (hm : c.mounted = some id) (other : Nat)
    (new : String) :
    Guarded (c.noteSample other new).1 slot id := by
  unfold Changer.noteSample
  split
  · exact h
  rename_i hr
  have hother := h.ne_of_not_reserved hm hr
  cases hu : c.magazine.update other new with
  | error e => exact h
  | ok magazine =>
    have hnew := h.secures.ne_of_update hother hu
    obtain ⟨-, rfl⟩ := Magazine.update_eq_ok hu
    exact h.put hother hnew

theorem noteLabel (h : Guarded c slot id) (hm : c.mounted = some id) (other : Nat)
    (label : Option String) :
    Guarded (c.noteLabel other label) slot id := by
  cases label with
  | none => exact h
  | some new => exact h.noteSample hm other new

theorem advance (h : Guarded c slot id) (event : Event) (he : event.scans = true)
    (hs : c.state ≠ .homeSwitch) : Guarded (c.advance event) slot id := by
  obtain ⟨machine, told, hmoved, -⟩ := Changer.advance_eq event he hs
  rw [hmoved]
  exact ⟨h.secures, h.unload⟩

/-! ### Acknowledgements -/

theorem finishLoad (h : Guarded c slot id) : c.finishLoad.1.magazine.Secures slot id := by
  unfold Changer.finishLoad
  split
  · rename_i s hs
    cases hi : c.magazine.insert s (placeholder s) with
    | error e => exact h.secures
    | ok magazine => exact h.secures.insert hi
  · exact h.secures

theorem finishUnload (h : Guarded c slot id) : c.finishUnload.1.magazine.Secures slot id := by
  unfold Changer.finishUnload
  split
  · rename_i x hx
    split
    · rename_i held hheld
      have hne : held ≠ id := by
        rintro rfl
        exact h.unload x hx (Magazine.sampleAt_eq_some.mp hheld).1
      cases hr : c.magazine.remove held with
      | error e => exact h.secures
      | ok removed =>
        obtain ⟨magazine, other⟩ := removed
        exact h.secures.remove hne hr
    · exact h.secures
  · exact h.secures

theorem acknowledge (h : Guarded c slot id) : c.acknowledge.magazine.Secures slot id := by
  unfold Changer.acknowledge
  split
  · exact h.finishLoad
  · exact h.finishLoad
  · exact h.finishUnload
  · exact h.finishUnload
  · unfold Changer.finishMount
    split <;> exact h.secures
  all_goals exact h.secures

theorem hear_ok (h : Guarded c slot id) (hc : Consistent c) :
    Guarded (c.hear .ok label) slot id := by
  have hupshot := hc.acknowledged label
  generalize c.hear .ok label = after at hupshot
  cases hupshot with
  | rest _ => exact h
  | early _ => exact of_pending_eq_none h.secures rfl
  | switch _ _ => exact of_pending_eq_none h.secures rfl
  | home hbusy _ _ _ =>
    exact of_pending_eq_none h.acknowledge (Changer.acknowledge_pending hbusy hc.settled)
  | homeMounted hbusy _ =>
    exact of_pending_eq_none h.acknowledge (Changer.acknowledge_pending hbusy hc.settled)

/-! ### Steps -/

/-- No message takes the slot away from the mounted sample. -/
theorem hear (h : Guarded c slot id) (hc : Consistent c) (hm : c.mounted = some id)
    (message : Message) : Guarded (c.hear message label) slot id := by
  cases message with
  | slot number present =>
    rw [Changer.hear_slot]
    split
    · exact h
    have hnoted := h.notePresence hm (number - 1) present
    refine hnoted.advance _ (Changer.stepAfter_scans number _ rfl) ?_
    obtain ⟨magazine, heq⟩ := c.notePresence_fst (number - 1) present
    rw [heq]
    exact hc.settled
  | qr number =>
    rw [Changer.hear_code]
    split
    · exact h
    split
    · have hreached : Consistent (c.advance .atScanPos) := hc.advance rfl
      have hmounted : (c.advance .atScanPos).mounted = some id := by
        obtain ⟨machine, told, heq, -⟩ := Changer.advance_eq .atScanPos rfl hc.settled
        rw [heq]
        exact hm
      have hnoted := (h.advance .atScanPos rfl hc.settled).noteLabel hmounted (number - 1) label
      refine hnoted.advance _ (Changer.stepAfter_scans number _ rfl) ?_
      obtain ⟨magazine, heq⟩ := (c.advance .atScanPos).noteLabel_eq (number - 1) label
      rw [heq]
      exact hreached.settled
    · exact h
  | get key => exact h
  | ok => exact h.hear_ok hc
  | error text =>
    rcases Changer.hear_error_eq (c := c) text label with heq | heq <;> rw [heq]
    · exact h
    · exact of_pending_eq_none h.secures rfl

theorem turn (h : Guarded c slot id) (cursor : Nat) : Guarded (c.turn cursor) slot id :=
  ⟨⟨h.secures.found, h.secures.own⟩, h.unload⟩

theorem started (h : Guarded c slot id) (hm : c.mounted = some id) {p : Plan}
    (hp : Planned c p) : Guarded (c.started p) slot id := by
  refine ⟨h.secures, ?_⟩
  intro x hx
  have hprogram : p.program = .unload x := Option.some.inj hx
  cases hp with
  | @unload y other _ here stored =>
    cases hprogram
    show c.magazine.slots[x]? ≠ some id
    rw [(Magazine.slotOf?_eq_some_iff.mp stored).2.1]
    intro heq
    cases heq
    exact here hm
  | _ => cases hprogram

/-- A command leaves the slot to the sample, unless the sample drops. -/
theorem command (h : Guarded c slot id) (hm : c.mounted = some id) (command : Command)
    (answer : Order → Answer)
    (hafter : ((c.command command).carryOut answer).changer.mounted = some id) :
    Guarded ((c.command command).carryOut answer).changer slot id := by
  have hupshot := Changer.command_upshot c command answer
  generalize (c.command command).carryOut answer = carried at hupshot hafter
  cases hupshot with
  | quiet cursor _ => exact h.turn cursor
  | reset _ =>
    refine of_pending_eq_none ?_ rfl
    simp only [Changer.reset, Changer.abort] at hafter ⊢
    split at hafter
    · cases hafter
    · rename_i hcalm
      rw [if_neg hcalm]
      exact h.secures
  | @started cursor _ _ planned _ => exact (h.turn cursor).started hm planned
  | refused _ _ _ => exact of_pending_eq_none (h.turn _).secures rfl

theorem deliver (h : Guarded c slot id) (answer : Order → Answer) :
    Guarded (c.step (.deliver answer)) slot id := by
  have hupshot := c.delivered answer
  generalize c.step (.deliver answer) = after, c.calls (.deliver answer) = asked at hupshot
  cases hupshot with
  | nothing _ => exact h
  | aside _ _ => exact ⟨h.secures, h.unload⟩
  | missing _ _ _ => exact of_pending_eq_none h.secures rfl
  | started _ _ _ _ =>
    refine ⟨h.secures, ?_⟩
    intro x hx
    cases hx
  | refused _ _ _ _ => exact of_pending_eq_none h.secures rfl

theorem step (h : Guarded c slot id) (hc : Consistent c) (hm : c.mounted = some id) (move : Move)
    (hafter : (c.step move).mounted = some id) : Guarded (c.step move) slot id := by
  cases move with
  | command command answer => exact h.command hm command answer hafter
  | message message label => exact h.hear hc hm message
  | deliver answer => exact h.deliver answer

/-- The slot stays guarded for as long as the sample is mounted. -/
theorem run (h : Guarded c slot id) (hc : Consistent c) {stay : List Move}
    (hstay : Changer.Along (fun d => d.mounted = some id) c stay) :
    Guarded (c.run stay) slot id := by
  induction stay generalizing c with
  | nil => exact h
  | cons move stay ih =>
    exact ih (h.step hc hstay.1 move hstay.2.head) (hc.step move) hstay.2

/-- A guarded slot is kept. -/
theorem keepsSlot (h : Guarded c slot id) (hm : c.mounted = some id) : KeepsSlot c slot id where
  stored := h.secures.stored
  unmount := by
    intro hs
    simp only [Changer.planUnmount, Changer.requireRest, hs, hm, Changer.slotOf, h.secures.found]
    rfl
  load := by
    intro p hp hload
    have hplanned := Changer.planned_of_planLoad hp
    cases hplanned with
    | @load s _ free =>
      cases hload
      obtain ⟨hlt, hempty, -⟩ := List.idxOf?_eq_some_iff.mp free
      have hstored := h.secures.stored
      rw [List.getElem?_eq_getElem hlt, hempty] at hstored
      exact h.secures.ne_empty (Option.some.inj hstored).symm
    | _ => cases hload

end Guarded

/-! ### What can happen while the sample stays -/

/-- Some steps lead from `c` to `d`, and `id` is mounted all the way. -/
def Stays (id : String) (c d : Changer) : Prop :=
  ∃ stay, Changer.Along (fun e => e.mounted = some id) c stay ∧ c.run stay = d

namespace Stays

variable {c d : Changer} {id : String}

theorem refl (hm : c.mounted = some id) : Stays id c c := ⟨[], hm, rfl⟩

theorem single (move : Move) (hm : c.mounted = some id) (hstep : c.step move = d)
    (hd : d.mounted = some id) : Stays id c d :=
  ⟨[move], ⟨hm, by rw [hstep]; exact hd⟩, hstep⟩

theorem trans {e : Changer} (h : Stays id c d) (h' : Stays id d e) : Stays id c e := by
  obtain ⟨stay, halong, rfl⟩ := h
  obtain ⟨further, hfurther, rfl⟩ := h'
  exact ⟨stay ++ further, halong.append hfurther, Changer.run_append c stay further⟩

theorem consistent (h : Stays id c d) (hc : Consistent c) : Consistent d := by
  obtain ⟨stay, -, rfl⟩ := h
  exact hc.run stay

end Stays

namespace Changer

variable {c : Changer} {slot j : Nat} {id held new : String}

/-- Only a slot with the mounted sample is reserved. -/
theorem not_reserved (hm : c.mounted = some id) (hheld : c.magazine.slots[j]? = some held)
    (hne : held ≠ id) : ¬c.reserved j = true := by
  rw [reserved_iff]
  rintro ⟨other, hm', hheld', -⟩
  rw [hm] at hm'
  rw [hheld] at hheld'
  exact hne ((Option.some.inj hheld').trans (Option.some.inj hm').symm)

/-- A report on a slot that holds something else than the mounted sample. -/
theorem hear_presence (hs : c.state.scanning = false) (hm : c.mounted = some id)
    (hheld : c.magazine.slots[j]? = some held) (hne : held ≠ id) (present : Bool) :
    c.hear (.slot (j + 1) present) none = c.shelve j (sight j held present) := by
  have hlt : ¬c.magazine.size < j + 1 := by
    have := Magazine.lt_size_of_held hheld
    omega
  have hfree : ¬c.reserved j = true := not_reserved hm hheld hne
  rw [hear_slot_of_not_scanning _ _ hs, if_neg hlt, Nat.add_sub_cancel, notePresence, if_neg hfree,
    Magazine.setPresence_fst hheld]
  rfl

/-- Two reports exchange what a slot holds for a sample that is not identified. -/
theorem stays_exchanged (hs : c.state.scanning = false) (hm : c.mounted = some id) (hid : id ≠ "")
    (hheld : c.magazine.slots[j]? = some held) (hne : held ≠ id) :
    Stays id c ((c.shelve j "").shelve j (placeholder j)) := by
  have hput : (c.shelve j "").magazine.slots[j]? = some "" :=
    Magazine.getElem?_put_self (Magazine.lt_size_of_held hheld)
  have hempty : Stays id c (c.shelve j "") :=
    .single (.message (.slot (j + 1) false) none) hm (hear_presence hs hm hheld hne false) hm
  have hagain : Stays id (c.shelve j "") ((c.shelve j "").shelve j (placeholder j)) :=
    .single (.message (.slot (j + 1) true) none) hm
      (hear_presence (c := c.shelve j "") hs hm hput hid.symm true) hm
  exact hempty.trans hagain

/-- A label read at a slot that holds something else than the mounted sample, on the way along the
slots. -/
theorem hear_label (hs : c.state = .movingToScanPosMounted) (hm : c.mounted = some id) (j : Nat)
    (new : String)
    (hheld : c.magazine.slots[j]? = some held) (hne : held ≠ id)
    (hnew : c.magazine.slotOf? new = none) (hnonempty : new ≠ "") :
    ∃ machine told, c.hear (.qr (j + 1)) (some new)
      = { c.shelve j new with machine := machine, told := told } := by
  have hlt : ¬c.magazine.size < j + 1 := by
    have := Magazine.lt_size_of_held hheld
    omega
  have hsettled : c.state ≠ .homeSwitch := by
    rw [hs]
    exact State.noConfusion
  obtain ⟨machine, told, hreached, hmachine⟩ := advance_eq .atScanPos rfl hsettled
  have hfree : ¬({ c with machine := machine, told := told } : Changer).reserved j = true :=
    not_reserved hm hheld hne
  have hnoted : ({ c with machine := machine, told := told } : Changer).noteLabel j (some new)
      = { c.shelve j new with machine := machine, told := told } := by
    simp only [noteLabel, noteSample, if_neg hfree, Magazine.update_of_new hheld hnew hnonempty]
    rfl
  rw [hear_code, if_neg hlt, if_pos (Or.inr hs), hreached, Nat.add_sub_cancel]
  dsimp only
  rw [hnoted]
  obtain ⟨machine', told', hmoved, -⟩ :=
    advance_eq (c := { c.shelve j new with machine := machine, told := told }) _
      (stepAfter_scans (j + 1) .finishedScanning rfl) hmachine
  exact ⟨machine', told', hmoved⟩

/-- A run along the slots is broken off. -/
theorem stays_broken_off (hc : Consistent c) (hs : c.state.scanning = true)
    (hm : c.mounted = some id) : Stays id c (c.abort .homeMounted) := by
  have hside : c.state.mounted = true := by
    rw [← State.occupied_of_scanning hs]
    apply hc.mounted.mp
    rw [hm]
    rfl
  have hreset : c.reset.1 = c.abort .homeMounted := by
    cases h : c.state <;> rw [h] at hs hside <;> cases hs <;> cases hside <;>
      simp [reset, h, State.inTransit, restState, State.mounted]
  exact .single (.command .reset willing) hm hreset hm

/-- A run along the slots is started. -/
theorem exists_scanning (hs : c.state = .homeMounted) (hm : c.mounted = some id) :
    ∃ d, Stays id c d ∧ d.state = .movingToScanPosMounted ∧ d.mounted = some id ∧
      d.magazine = c.magazine := by
  have hplan : c.plan .scan
      = (c, .ok (some ⟨.scan, .scanSamples, Event.scanSamples.id, none⟩)) := by
    simp only [plan, planScan, requireRest, hs]
    rfl
  refine ⟨_, .single (.command .scan willing) hm (step_of_plan hplan) hm, ?_, hm, rfl⟩
  show Plan.goal _ c.state = _
  rw [hs]
  rfl

/-- A run along the slots gives another slot a new name. -/
theorem exists_renamed (hc : Consistent c) (hs : c.state = .homeMounted) (hm : c.mounted = some id)
    (hheld : c.magazine.slots[j]? = some held) (hne : held ≠ id)
    (hnew : c.magazine.slotOf? new = none) (hnonempty : new ≠ "") :
    ∃ d, Stays id c d ∧ d.state = .homeMounted ∧ d.mounted = some id ∧
      d.magazine = c.magazine.put j new := by
  obtain ⟨scanned, hscan, hmoving, hmounted, hmagazine⟩ := exists_scanning hs hm
  rw [← hmagazine] at hheld hnew ⊢
  obtain ⟨machine, told, hread⟩ := hear_label hmoving hmounted j new hheld hne hnew hnonempty
  have hstill : (scanned.hear (.qr (j + 1)) (some new)).mounted = some id := by
    rw [hread]
    exact hmounted
  have hlabel : Stays id scanned (scanned.hear (.qr (j + 1)) (some new)) :=
    .single (.message (.qr (j + 1)) (some new)) hmounted rfl hstill
  have hscanning : (scanned.hear (.qr (j + 1)) (some new)).state.scanning = true :=
    hear_scanning (by rw [hmoving]; rfl) Message.noConfusion (some new)
  have hbroken := stays_broken_off (hlabel.consistent (hscan.consistent hc)) hscanning hstill
  refine ⟨_, (hscan.trans hlabel).trans hbroken, rfl, hstill, ?_⟩
  rw [hread]
  rfl

/-- The unload of another sample is started. -/
theorem exists_unloading (hs : c.state = .homeMounted) (hm : c.mounted = some id) (hne : new ≠ id)
    (hfound : c.magazine.slotOf? new = some j) :
    ∃ d, Stays id c d ∧ d.state = .unloadingMounted ∧ d.mounted = some id ∧
      d.pending = some (.unload j) ∧ d.magazine = c.magazine := by
  have hother : ¬c.mounted = some new := by
    rw [hm]
    intro heq
    cases heq
    exact hne rfl
  have hplan : c.plan (.unload new)
      = (c, .ok (some ⟨.unload j, .unload, "unload", some new⟩)) := by
    simp only [plan, planUnload, requireRest, hs, if_neg hother, slotOf, hfound]
    rfl
  refine ⟨_, .single (.command (.unload new) willing) hm (step_of_plan hplan) hm, ?_, hm, rfl, rfl⟩
  show Plan.goal _ c.state = _
  rw [hs]
  rfl

/-- The acknowledgement of an unload takes away the sample that is found by the name in its slot. -/
theorem hear_unloaded (hc : Consistent c) (hs : c.state = .unloadingMounted)
    (hp : c.pending = some (.unload j)) (hheld : c.magazine.slots[j]? = some id) (hid : id ≠ "")
    (hfound : c.magazine.slotOf? id = some slot) :
    (c.hear .ok none).magazine = c.magazine.put slot "" ∧
      (c.hear .ok none).mounted = c.mounted := by
  have htarget : Event.programFinished.target? c.state = some .homeMounted := by rw [hs]; decide
  rw [hear_ok_of_target hc.tag hc.settled htarget State.noConfusion]
  have hsample := Magazine.sampleAt_eq_some.mpr ⟨hheld, hid⟩
  have hack : c.acknowledge = { c.dropPending with magazine := c.magazine.put slot "" } := by
    simp only [acknowledge, hs, finishUnload, hp, hsample, Magazine.remove, hfound, Except.map,
      adopt]
  rw [hack]
  exact ⟨rfl, rfl⟩

/-- The slot of an unload that was started is seen empty and then occupied.  If the mounted sample
bears the name of that slot, it is the one that leaves the books. -/
theorem exists_taken (hc : Consistent c) (hs : c.state = .unloadingMounted)
    (hm : c.mounted = some id) (hp : c.pending = some (.unload j)) (hown : id = placeholder j)
    (hheld : c.magazine.slots[j]? = some held) (hne : held ≠ id)
    (hfound : c.magazine.slotOf? id = some slot) (hlt : slot < j) :
    ∃ d, Stays id c d ∧ d.magazine.slots[slot]? = some "" := by
  have hid : id ≠ "" := (Magazine.slotOf?_eq_some_iff.mp hfound).1
  have hexchanged := stays_exchanged (by rw [hs]; rfl) hm hid hheld hne
  have hwrong : ((c.shelve j "").shelve j (placeholder j)).magazine.slots[j]? = some id := by
    rw [hown]
    apply Magazine.getElem?_put_self
    show j < (c.magazine.put j "").size
    rw [Magazine.size_put]
    exact Magazine.lt_size_of_held hheld
  have hfirst : ((c.shelve j "").shelve j (placeholder j)).magazine.slotOf? id = some slot :=
    Magazine.slotOf?_put_of_lt (Magazine.slotOf?_put_of_lt hfound hlt) hlt
  obtain ⟨hleft, hstill⟩ :=
    hear_unloaded (hexchanged.consistent hc) hs hp hwrong hid hfirst
  refine ⟨_, hexchanged.trans (.single (.message .ok none) hm rfl (hstill.trans hm)), ?_⟩
  show (hear _ .ok none).magazine.slots[slot]? = some ""
  rw [hleft]
  exact Magazine.getElem?_put_self (Magazine.lt_size_of_held
    (Magazine.slotOf?_eq_some_iff.mp hfirst).2.1)

/-- A sample that bears the name of a later slot can lose its own, if the later slot holds something
else. -/
theorem exists_lost (hc : Consistent c) (hs : c.state = .homeMounted) (hm : c.mounted = some id)
    (hfound : c.magazine.slotOf? id = some slot) (hown : id = placeholder j) (hlt : slot < j)
    (hheld : c.magazine.slots[j]? = some held) (hne : held ≠ id) :
    ∃ d, Stays id c d ∧ d.magazine.slots[slot]? = some "" := by
  have hj : j < c.magazine.size := Magazine.lt_size_of_held hheld
  obtain ⟨new, hnonempty, hnew⟩ := c.magazine.exists_new
  have hother : new ≠ id := by
    rintro rfl
    rw [hfound] at hnew
    cases hnew
  obtain ⟨named, hnamed, hns, hnm, hrenamed⟩ := exists_renamed hc hs hm hheld hne hnew hnonempty
  have hstored : named.magazine.slotOf? new = some j := by
    rw [hrenamed]
    exact Magazine.slotOf?_put_of_new hj hnew hnonempty
  obtain ⟨leaving, hleaving, hls, hlm, hlp, hsame⟩ := exists_unloading hns hnm hother hstored
  have hthere : leaving.magazine.slots[j]? = some new := by
    rw [hsame, hrenamed]
    exact Magazine.getElem?_put_self hj
  have hstill : leaving.magazine.slotOf? id = some slot := by
    rw [hsame, hrenamed]
    exact Magazine.slotOf?_put_of_lt hfound hlt
  have hstays := hnamed.trans hleaving
  obtain ⟨d, htaken, hempty⟩ :=
    exists_taken (hstays.consistent hc) hls hlm hlp hown hthere hother hstill hlt
  exact ⟨d, hstays.trans htaken, hempty⟩

end Changer

namespace KeepsSlot

variable {c : Changer} {slot j : Nat} {id held : String}

/-- At home, the kept slot is the first one with the sample. -/
theorem found (h : KeepsSlot c slot id) (hs : c.state = .homeMounted) :
    c.magazine.slotOf? id = some slot := by
  have hplanned := Changer.planned_of_planUnmount (h.unmount hs)
  cases hplanned with
  | unmount _ _ stored => exact stored

/-- A sample that is kept in every future bears the name of no slot that does not hold it. -/
theorem own (hc : Consistent c) (hs : c.state = .homeMounted) (hm : c.mounted = some id)
    (h : ∀ d, Stays id c d → KeepsSlot d slot id) (hown : id = placeholder j)
    (hheld : c.magazine.slots[j]? = some held) : held = id := by
  apply Decidable.byContradiction
  intro hne
  have hfound := (h c (.refl hm)).found hs
  have hid : id ≠ "" := (Magazine.slotOf?_eq_some_iff.mp hfound).1
  have hstored := (h c (.refl hm)).stored
  rcases Nat.lt_trichotomy j slot with hlt | heq | hlt
  · -- an earlier slot is given the sample's name
    have hexchanged := Changer.stays_exchanged (by rw [hs]; rfl) hm hid hheld hne
    have hlater := (h _ hexchanged).found hs
    have hearlier := (Magazine.slotOf?_eq_some_iff.mp hlater).2.2 j hlt
    apply hearlier
    rw [hown]
    exact Magazine.getElem?_put_self (by
      show j < (c.magazine.put j "").size
      rw [Magazine.size_put]
      exact Magazine.lt_size_of_held hheld)
  · rw [heq] at hheld
    rw [hstored] at hheld
    exact hne (Option.some.inj hheld).symm
  · obtain ⟨d, hstays, hempty⟩ := Changer.exists_lost hc hs hm hfound hown hlt hheld hne
    have hkept := (h d hstays).stored
    rw [hempty] at hkept
    exact hid (Option.some.inj hkept).symm

end KeepsSlot

/-- **The slot is kept exactly if it is secured.**  From home with a mounted sample, the slot is
kept in every future in which the sample stays mounted exactly if it is secured now. -/
theorem keepsSlot_iff_secures {c : Changer} {slot : Nat} {id : String} (hc : Consistent c)
    (hs : c.state = .homeMounted) (hm : c.mounted = some id) :
    (∀ d, Stays id c d → KeepsSlot d slot id) ↔ c.magazine.Secures slot id := by
  constructor
  · intro h
    refine ⟨(h c (.refl hm)).found hs, ?_⟩
    intro j hj hown
    have hheld : c.magazine.slots[j]? = some c.magazine.slots[j] := List.getElem?_eq_getElem hj
    rw [hheld, KeepsSlot.own hc hs hm h hown hheld]
  · rintro hsecures d ⟨stay, halong, rfl⟩
    have hguarded := Guarded.of_pending_eq_none hsecures (hc.pending_of_rest (by rw [hs]; rfl))
    exact (hguarded.run hc halong).keepsSlot halong.last

end Autosampler

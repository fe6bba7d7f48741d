import Autosampler.Proofs.SlotChanges
import Autosampler.Vision

/-!
# A complete scan

The robot visits every slot with the camera, then it reports for every slot whether a sample is
there, and then it acknowledges.  The machine goes along with it: two transitions for each look, one
for each report, and the last slot leads out of the loop.  The magazine follows the reports, except
in the slots that are reserved for the mounted sample.

* `codesFrom`, `reportsFrom`, `sweep` — the messages of a scan;
* `Spares`, `Spares.run_codes` — looks leave the reserved slots alone, and reserve no others;
* `Changer.run_reports_slots` — what reports leave in the slots;
* `Sweeping`, `Sweeping.code`, `Sweeping.report`, `Sweeping.run_sweep` — the machine along the two
  loops, the last slot included;
* `Scanned`, `scan_returns` — a complete scan ends where it began, with the presence noted.
-/

namespace Autosampler

/-! ### The messages of a scan -/

/-- Looks at one slot after the other, from slot `first` on, with the label that each finds. -/
def codesFrom : Nat → List (Option String) → List Move
  | _, [] => []
  | first, label :: labels => .message (.qr (first + 1)) label :: codesFrom (first + 1) labels

/-- Reports on one slot after the other, from slot `first` on. -/
def reportsFrom : Nat → List Bool → List Move
  | _, [] => []
  | first, flag :: flags => .message (.slot (first + 1) flag) none :: reportsFrom (first + 1) flags

/-- The messages of a scan before its acknowledgement. -/
def sweep (labels : List (Option String)) (flags : List Bool) : List Move :=
  codesFrom 0 labels ++ reportsFrom 0 flags

namespace Changer

variable {c : Changer}

/-! ### Looks -/

/-- The mounted sample, if there is one, has its slot. -/
def Stows (c : Changer) : Prop := ∀ id, c.mounted = some id → ∃ slot, c.reserved slot = true

theorem stows_of_slotOf?
    (h : ∀ id, c.mounted = some id → ∃ slot, c.magazine.slotOf? id = some slot) : c.Stows := by
  intro id hm
  obtain ⟨slot, hslot⟩ := h id hm
  obtain ⟨hid, hheld, -⟩ := Magazine.slotOf?_eq_some_iff.mp hslot
  exact ⟨slot, reserved_iff.mpr ⟨id, hm, hheld, hid⟩⟩

end Changer

/-- From `c` to `d`, the slots reserved for the mounted sample stay as they are, and no other slot
becomes one of them. -/
structure Spares (c d : Changer) : Prop where
  mounted : d.mounted = c.mounted
  size : d.magazine.size = c.magazine.size
  reserved : ∀ slot, d.reserved slot = c.reserved slot
  kept : ∀ slot : Nat, c.reserved slot = true →
    d.magazine.slots[slot]? = c.magazine.slots[slot]?

namespace Spares

variable {c d e : Changer} {slot : Nat} {id : String}

theorem refl (c : Changer) : Spares c c := ⟨rfl, rfl, fun _ => rfl, fun _ _ => rfl⟩

theorem trans (h : Spares c d) (h' : Spares d e) : Spares c e where
  mounted := h'.mounted.trans h.mounted
  size := h'.size.trans h.size
  reserved slot := (h'.reserved slot).trans (h.reserved slot)
  kept slot hr := (h'.kept slot ((h.reserved slot).trans hr)).trans (h.kept slot hr)

theorem stows (h : Spares c d) (hc : c.Stows) : d.Stows := by
  intro id hm
  obtain ⟨slot, hslot⟩ := hc id (h.mounted.symm.trans hm)
  exact ⟨slot, (h.reserved slot).trans hslot⟩

theorem advance (c : Changer) (event : Event) : Spares c (c.advance event) :=
  ⟨rfl, rfl, fun _ => rfl, fun _ _ => rfl⟩

theorem started (c : Changer) (p : Plan) : Spares c (c.started p) :=
  ⟨rfl, rfl, fun _ => rfl, fun _ _ => rfl⟩

/-- A text other than the mounted sample's name goes into a slot that is not reserved. -/
theorem put (hfree : c.reserved slot = false) (hne : c.mounted ≠ some id) :
    Spares c { c with magazine := c.magazine.put slot id } where
  mounted := rfl
  size := Magazine.size_put c.magazine slot id
  reserved other := by
    by_cases hslot : slot = other
    · subst hslot
      rw [hfree, Bool.eq_false_iff, Ne, Changer.reserved_iff]
      rintro ⟨held, hm, hheld, -⟩
      change (c.magazine.put slot id).slots[slot]? = some held at hheld
      rw [Magazine.getElem?_put] at hheld
      split at hheld
      · exact hne (hm.trans hheld.symm)
      · rename_i hout
        have := Magazine.lt_size_of_held hheld
        exact hout ⟨rfl, this⟩
    · exact Changer.reserved_congr rfl (Magazine.getElem?_put_of_ne hslot)
  kept other hr := by
    have hslot : slot ≠ other := by
      rintro rfl
      rw [hfree] at hr
      cases hr
    exact Magazine.getElem?_put_of_ne hslot

/-- A label is noted only if no other slot has it, so the stored mounted sample's is not. -/
theorem noteLabel (hc : c.Stows) (slot : Nat) (label : Option String) :
    Spares c (c.noteLabel slot label) := by
  cases label with
  | none => exact refl c
  | some id =>
    show Spares c (c.noteSample slot id).1
    unfold Changer.noteSample
    split
    · exact refl c
    rename_i hfree
    cases hupdate : c.magazine.update slot id with
    | error e => exact refl c
    | ok magazine =>
      obtain ⟨hwhere, rfl⟩ := Magazine.update_eq_ok hupdate
      refine put (by simpa using hfree) ?_
      intro hm
      obtain ⟨other, hother⟩ := hc id hm
      obtain ⟨held, hm', hheld, hid⟩ := Changer.reserved_iff.mp hother
      rw [hm] at hm'
      cases hm'
      rcases hwhere with hhere | hnowhere
      · have hslot := (Magazine.slotOf?_eq_some_iff.mp hhere).2.1
        exact hfree (Changer.reserved_iff.mpr ⟨id, hm, hslot, hid⟩)
      · exact (Magazine.slotOf?_eq_none_iff.mp hnowhere).elim hid fun hnone => hnone other hheld

theorem hear_code (hc : c.Stows) (number : Nat) (label : Option String) :
    Spares c (c.hear (.qr number) label) := by
  rw [Changer.hear_code]
  split
  · exact refl c
  split
  · have hreached : Spares c (c.advance .atScanPos) := advance c .atScanPos
    have hnoted := noteLabel (hreached.stows hc) (number - 1) label
    exact (hreached.trans hnoted).trans (advance _ _)
  · exact refl c

/-- However many looks there are, and whatever they find. -/
theorem run_codes (hc : c.Stows) (first : Nat) (labels : List (Option String)) :
    Spares c (c.run (codesFrom first labels)) := by
  induction labels generalizing c first with
  | nil => exact refl c
  | cons label labels ih =>
    have hlook := hear_code hc (first + 1) label
    exact hlook.trans (ih (hlook.stows hc) (first + 1))

end Spares

/-! ### Reports -/

theorem sight_ne_empty_iff (slot : Nat) (held : String) (flag : Bool) :
    sight slot held flag ≠ "" ↔ flag = true := by
  unfold sight
  cases flag with
  | false => simp
  | true =>
    by_cases hempty : held = ""
    · simp [hempty, placeholder_ne_empty]
    · simp [hempty]

namespace Changer

variable {c : Changer} {flag : Bool}

theorem hear_slot_mounted (number : Nat) (label : Option String) :
    (c.hear (.slot number flag) label).mounted = c.mounted := by
  rw [hear_slot]
  split
  · rfl
  · obtain ⟨magazine, hnoted⟩ := c.notePresence_fst (number - 1) flag
    rw [hnoted]
    rfl

/-- A report changes its own slot at most. -/
theorem hear_slot_slots (slot : Nat) (flag : Bool) (label : Option String) (other : Nat) :
    (c.hear (.slot (slot + 1) flag) label).magazine.slots[other]?
      = if slot = other then c.seen slot flag else c.magazine.slots[other]? := by
  rw [hear_slot]
  by_cases hlt : c.magazine.size < slot + 1
  · rw [if_pos hlt]
    split
    · rename_i hslot
      have hnone : c.magazine.slots[slot]? = none :=
        List.getElem?_eq_none (Nat.le_of_lt_succ hlt)
      rw [← hslot, seen, hnone]
      rfl
    · rfl
  · rw [if_neg hlt]
    exact c.getElem?_notePresence slot flag other

/-- Reports one after the other: each slot is as its own report leaves it. -/
theorem run_reports_slots (c : Changer) (first : Nat) (flags : List Bool) :
    (∀ other < first,
        (c.run (reportsFrom first flags)).magazine.slots[other]? = c.magazine.slots[other]?) ∧
      ∀ i flag, flags[i]? = some flag →
        (c.run (reportsFrom first flags)).magazine.slots[first + i]? = c.seen (first + i) flag := by
  induction flags generalizing c first with
  | nil => exact ⟨fun _ _ => rfl, fun _ _ h => by cases h⟩
  | cons flag flags ih =>
    obtain ⟨hbefore, hafter⟩ := ih (c.hear (.slot (first + 1) flag) none) (first + 1)
    refine ⟨?_, ?_⟩
    · intro other hlt
      refine (hbefore other (Nat.lt_succ_of_lt hlt)).trans ?_
      rw [hear_slot_slots, if_neg (Nat.ne_of_gt hlt)]
    · intro i later hlater
      cases i with
      | zero =>
        cases hlater
        refine (hbefore first (Nat.lt_succ_self first)).trans ?_
        rw [hear_slot_slots, if_pos rfl]
        rfl
      | succ i =>
        have hslot : first + (i + 1) = first + 1 + i := by omega
        rw [hslot]
        refine (hafter i later hlater).trans (seen_congr (hear_slot_mounted _ _) ?_)
        rw [hear_slot_slots, if_neg (by omega)]

end Changer

namespace Spares

variable {c d : Changer} {slot : Nat} {id held : String}

/-- After the looks, a report leaves the slot of the mounted sample as it was before them. -/
theorem seen_kept (h : Spares c d) (hm : c.mounted = some id)
    (hheld : c.magazine.slots[slot]? = some id) (hid : id ≠ "") (flag : Bool) :
    d.seen slot flag = some id := by
  have hr : c.reserved slot = true := Changer.reserved_iff.mpr ⟨id, hm, hheld, hid⟩
  rw [Changer.seen_of_reserved ((h.reserved slot).trans hr), h.kept slot hr, hheld]

/-- After the looks, a report settles whether any other slot is occupied. -/
theorem seen_reported (h : Spares c d) (hheld : c.magazine.slots[slot]? = some held)
    (hm : c.mounted ≠ some held) (flag : Bool) :
    ∃ id, d.seen slot flag = some id ∧ (id ≠ "" ↔ flag = true) := by
  have hr : d.reserved slot = false := by
    rw [h.reserved, Bool.eq_false_iff, Ne, Changer.reserved_iff]
    rintro ⟨id, hid, hslot, -⟩
    rw [hheld] at hslot
    exact hm (hid.trans hslot.symm)
  have hlt : slot < d.magazine.size := by
    rw [h.size]
    exact Magazine.lt_size_of_held hheld
  have hnow : d.magazine.slots[slot]? = some d.magazine.slots[slot] := List.getElem?_eq_getElem hlt
  exact ⟨_, Changer.seen_of_not_reserved hr hnow, sight_ne_empty_iff slot _ flag⟩

/-- In the end each slot is as its report leaves it after the looks. -/
theorem run_sweep (h : Spares c d) (hc : c.Stows) (labels : List (Option String))
    {flags : List Bool} {flag : Bool} (hflag : flags[slot]? = some flag) :
    ∃ e, Spares c e ∧ (d.run (sweep labels flags)).magazine.slots[slot]? = e.seen slot flag := by
  refine ⟨d.run (codesFrom 0 labels), h.trans (run_codes (h.stows hc) 0 labels), ?_⟩
  have hlast := ((d.run (codesFrom 0 labels)).run_reports_slots 0 flags).2 slot flag hflag
  rw [← Changer.run_append, Nat.zero_add] at hlast
  exact hlast

end Spares

/-! ### The machine along the slots -/

namespace Changer

variable {c : Changer}

theorem noteLabel_size (slot : Nat) (label : Option String) :
    (c.noteLabel slot label).magazine.size = c.magazine.size := by
  cases label with
  | none => rfl
  | some id =>
    show (c.noteSample slot id).1.magazine.size = _
    rw [noteSample_magazine]
    split
    · rfl
    · exact c.magazine.size_apply _

theorem notePresence_size (slot : Nat) (flag : Bool) :
    (c.notePresence slot flag).1.magazine.size = c.magazine.size := by
  rw [notePresence_magazine]
  split
  · rfl
  · exact c.magazine.size_apply _

end Changer

namespace State

/-- The state on a side of the mounted axis, given by the one on the side without a sample. -/
def onSide (mounted : Bool) (state : State) : State :=
  if mounted then state.counterpart.getD state else state

/-- Where the arm is when `slot` is next: still among the `size` slots, or past them. -/
def along (size slot : Nat) (among past : State) : State := if slot = size then past else among

theorem along_of_lt {size slot : Nat} (h : slot < size) (among past : State) :
    along size slot among past = among := if_neg (Nat.ne_of_lt h)

theorem along_self (size : Nat) (among past : State) : along size size among past = past :=
  if_pos rfl

/-- A scan takes the same way on both sides. -/
theorem target?_onSide {event : Event} {source target : State} (he : event.scans = true)
    (h : event.target? source = some target) (hs : source.mounted = false) (mounted : Bool) :
    event.target? (source.onSide mounted) = some (target.onSide mounted) := by
  cases mounted with
  | false => exact h
  | true => cases event <;> cases he <;> cases source <;> cases hs <;> cases h <;> rfl

theorem eq_onSide_of_atRest {state : State} (h : state.atRest = true) :
    state = home.onSide state.mounted := by
  cases state <;> cases h <;> rfl

theorem movingToScanPos_onSide (mounted : Bool) :
    movingToScanPos.onSide mounted = .movingToScanPos ∨
      movingToScanPos.onSide mounted = .movingToScanPosMounted := by
  cases mounted
  · exact Or.inl rfl
  · exact Or.inr rfl

end State

/-- What holds while a scan of `c` is going on, `steps` transitions after its beginning. -/
structure Sweeping (c d : Changer) (steps : Nat) : Prop where
  tag : d.machine.tag = some Event.scanSamples.id
  side : d.state.mounted = c.state.mounted
  mounted : d.mounted = c.mounted
  size : d.magazine.size = c.magazine.size
  count : d.machine.count = c.machine.count + steps
  log : ∃ log, d.told = c.told ++ log ∧ log.length = steps ∧
    ∀ t ∈ log, t.tag = Event.scanSamples.id ∧ t.source.mounted = c.state.mounted ∧
      t.target.mounted = c.state.mounted

namespace Sweeping

variable {c d : Changer} {event : Event} {state : State} {steps slot first : Nat}

theorem of_magazine (h : Sweeping c d steps) {magazine : Magazine}
    (hsize : magazine.size = d.magazine.size) :
    Sweeping c { d with magazine := magazine } steps :=
  ⟨h.tag, h.side, h.mounted, hsize.trans h.size, h.count, h.log⟩

theorem told_arrive {log : List Transition} {tag : String} (htold : d.told = c.told ++ log) :
    (d.arrive event state tag none).told
      = c.told ++ (log ++ [⟨event, d.state, state, tag, none⟩]) := by
  show d.told ++ _ = _
  rw [htold, List.append_assoc]

/-- A transition to a state on the same side. -/
theorem arrive (h : Sweeping c d steps) (hside : state.mounted = d.state.mounted) :
    Sweeping c (d.arrive event state Event.scanSamples.id none) (steps + 1) where
  tag := rfl
  side := hside.trans h.side
  mounted := h.mounted
  size := h.size
  count := congrArg (· + 1) h.count
  log := by
    obtain ⟨log, htold, hlength, hlog⟩ := h.log
    refine ⟨_, told_arrive htold, ?_, ?_⟩
    · rw [List.length_append, hlength]
      rfl
    · intro t ht
      rcases List.mem_append.mp ht with hbefore | hlast
      · exact hlog t hbefore
      · obtain rfl := List.mem_singleton.mp hlast
        exact ⟨rfl, h.side, hside.trans h.side⟩

theorem advance (h : Sweeping c d steps) (he : event.scans = true)
    (ht : event.target? d.state = some state) :
    (d.advance event).state = state ∧ Sweeping c (d.advance event) (steps + 1) := by
  obtain ⟨hsource, -, hside⟩ := Event.scanning_of_target he ht
  rcases Changer.advance_cases he (State.ne_homeSwitch_of_scanning hsource) with
    ⟨hnone, -⟩ | ⟨state', ht', heq⟩
  · rw [hnone] at ht
    cases ht
  · rw [ht] at ht'
    cases ht'
    rw [heq, h.tag]
    exact ⟨rfl, h.arrive hside⟩

/-- The step after a slot leads on to the next one, and past the last one to the next phase. -/
theorem advance_along (h : Sweeping c d steps) (slot : Nat) (last : Event) (among past : State)
    (hevent : event = if slot + 1 = c.magazine.size then last else .nextSlot)
    (hlast : last.scans = true)
    (hnext : Event.nextSlot.target? d.state = some (among.onSide c.state.mounted))
    (hpast : last.target? d.state = some (past.onSide c.state.mounted)) :
    (d.advance event).state
        = (State.along c.magazine.size (slot + 1) among past).onSide c.state.mounted ∧
      Sweeping c (d.advance event) (steps + 1) := by
  unfold State.along
  rw [hevent]
  by_cases hend : slot + 1 = c.magazine.size
  · rw [if_pos hend, if_pos hend]
    exact h.advance hlast hpast
  · rw [if_neg hend, if_neg hend]
    exact h.advance rfl hnext

/-- A look at a slot takes two transitions. -/
theorem code (h : Sweeping c d steps) (hlt : slot < c.magazine.size)
    (hs : d.state = State.movingToScanPos.onSide c.state.mounted) (label : Option String) :
    (d.hear (.qr (slot + 1)) label).state
        = (State.along c.magazine.size (slot + 1) .movingToScanPos .presenceDetection).onSide
          c.state.mounted ∧
      Sweeping c (d.hear (.qr (slot + 1)) label) (steps + 2) := by
  have hsize : d.magazine.size = c.magazine.size := h.size
  have hmoving : d.state = .movingToScanPos ∨ d.state = .movingToScanPosMounted :=
    hs ▸ State.movingToScanPos_onSide _
  have hreach : Event.atScanPos.target? d.state
      = some (State.scanningSample.onSide c.state.mounted) := by
    rw [hs]
    exact State.target?_onSide rfl rfl rfl _
  obtain ⟨hstate, hreached⟩ := h.advance rfl hreach
  obtain ⟨magazine, hnoted⟩ := (d.advance .atScanPos).noteLabel_eq slot label
  have hkept : magazine.size = d.magazine.size := by
    have hnow := (d.advance .atScanPos).noteLabel_size slot label
    rw [hnoted] at hnow
    exact hnow
  have hheard : d.hear (.qr (slot + 1)) label
      = ((d.advance .atScanPos).noteLabel slot label).advance
        (((d.advance .atScanPos).noteLabel slot label).stepAfter (slot + 1) .finishedScanning) := by
    rw [Changer.hear_code, if_neg (by omega), if_pos hmoving]
    rfl
  rw [hheard, hnoted]
  refine (hreached.of_magazine hkept).advance_along slot .finishedScanning .movingToScanPos
    .presenceDetection (by rw [Changer.stepAfter, hkept, hsize]) rfl ?_ ?_
  · show Event.nextSlot.target? (d.advance .atScanPos).state = _
    rw [hstate]
    exact State.target?_onSide rfl rfl rfl _
  · show Event.finishedScanning.target? (d.advance .atScanPos).state = _
    rw [hstate]
    exact State.target?_onSide rfl rfl rfl _

/-- A report on a slot takes one transition. -/
theorem report (h : Sweeping c d steps) (hlt : slot < c.magazine.size)
    (hs : d.state = State.presenceDetection.onSide c.state.mounted) (flag : Bool)
    (label : Option String) :
    (d.hear (.slot (slot + 1) flag) label).state
        = (State.along c.magazine.size (slot + 1) .presenceDetection .movingToHomePos).onSide
          c.state.mounted ∧
      Sweeping c (d.hear (.slot (slot + 1) flag) label) (steps + 1) := by
  have hsize : d.magazine.size = c.magazine.size := h.size
  obtain ⟨magazine, hnoted⟩ := d.notePresence_fst slot flag
  have hkept : magazine.size = d.magazine.size := by
    have hnow := d.notePresence_size slot flag
    rw [hnoted] at hnow
    exact hnow
  have hheard : d.hear (.slot (slot + 1) flag) label
      = (d.notePresence slot flag).1.advance
        (d.stepAfter (slot + 1) .finishedPresenceDetection) := by
    rw [Changer.hear_slot, if_neg (by omega)]
    rfl
  rw [hheard, hnoted]
  refine (h.of_magazine hkept).advance_along slot .finishedPresenceDetection .presenceDetection
    .movingToHomePos (by rw [Changer.stepAfter, hsize]) rfl ?_ ?_
  · show Event.nextSlot.target? d.state = _
    rw [hs]
    exact State.target?_onSide rfl rfl rfl _
  · show Event.finishedPresenceDetection.target? d.state = _
    rw [hs]
    exact State.target?_onSide rfl rfl rfl _

/-- The looks at all slots from `first` on lead to the reports. -/
theorem run_codes (h : Sweeping c d steps) (labels : List (Option String))
    (hlen : first + labels.length = c.magazine.size)
    (hs : d.state = (State.along c.magazine.size first .movingToScanPos .presenceDetection).onSide
      c.state.mounted) :
    Changer.Along (fun d => ∃ steps, Sweeping c d steps) d (codesFrom first labels) ∧
      (d.run (codesFrom first labels)).state = State.presenceDetection.onSide c.state.mounted ∧
      Sweeping c (d.run (codesFrom first labels)) (steps + 2 * labels.length) := by
  induction labels generalizing d steps first with
  | nil =>
    rw [List.length_nil, Nat.add_zero] at hlen
    rw [hlen, State.along_self] at hs
    exact ⟨⟨steps, h⟩, hs, h⟩
  | cons label labels ih =>
    rw [List.length_cons] at hlen ⊢
    have hlt : first < c.magazine.size := by omega
    rw [State.along_of_lt hlt] at hs
    obtain ⟨hstate, hlook⟩ := h.code hlt hs label
    have hrest : first + 1 + labels.length = c.magazine.size := by omega
    obtain ⟨halong, hend, hafter⟩ := ih hlook hrest hstate
    have hsteps : steps + 2 * (labels.length + 1) = steps + 2 + 2 * labels.length := by omega
    rw [hsteps]
    exact ⟨⟨⟨steps, h⟩, halong⟩, hend, hafter⟩

/-- The reports on all slots from `first` on lead to the way home. -/
theorem run_reports (h : Sweeping c d steps) (flags : List Bool)
    (hlen : first + flags.length = c.magazine.size)
    (hs : d.state = (State.along c.magazine.size first .presenceDetection .movingToHomePos).onSide
      c.state.mounted) :
    Changer.Along (fun d => ∃ steps, Sweeping c d steps) d (reportsFrom first flags) ∧
      (d.run (reportsFrom first flags)).state = State.movingToHomePos.onSide c.state.mounted ∧
      Sweeping c (d.run (reportsFrom first flags)) (steps + flags.length) := by
  induction flags generalizing d steps first with
  | nil =>
    rw [List.length_nil, Nat.add_zero] at hlen
    rw [hlen, State.along_self] at hs
    exact ⟨⟨steps, h⟩, hs, h⟩
  | cons flag flags ih =>
    rw [List.length_cons] at hlen ⊢
    have hlt : first < c.magazine.size := by omega
    rw [State.along_of_lt hlt] at hs
    obtain ⟨hstate, hreport⟩ := h.report hlt hs flag none
    have hrest : first + 1 + flags.length = c.magazine.size := by omega
    obtain ⟨halong, hend, hafter⟩ := ih hreport hrest hstate
    have hsteps : steps + (flags.length + 1) = steps + 1 + flags.length := by omega
    rw [hsteps]
    exact ⟨⟨⟨steps, h⟩, halong⟩, hend, hafter⟩

/-- Both loops in a row lead to the way home. -/
theorem run_sweep (h : Sweeping c d steps) {labels : List (Option String)} {flags : List Bool}
    (hsize : 0 < c.magazine.size) (hlabels : labels.length = c.magazine.size)
    (hflags : flags.length = c.magazine.size)
    (hs : d.state = State.movingToScanPos.onSide c.state.mounted) :
    Changer.Along (fun d => ∃ steps, Sweeping c d steps) d (sweep labels flags) ∧
      (d.run (sweep labels flags)).state = State.movingToHomePos.onSide c.state.mounted ∧
      Sweeping c (d.run (sweep labels flags)) (steps + 3 * c.magazine.size) := by
  obtain ⟨hcodes, hpresence, hlooked⟩ := h.run_codes labels ((Nat.zero_add _).trans hlabels)
    (by rw [State.along_of_lt hsize, hs])
  obtain ⟨hreports, hhome, hswept⟩ := hlooked.run_reports flags ((Nat.zero_add _).trans hflags)
    (by rw [State.along_of_lt hsize, hpresence])
  rw [← Changer.run_append] at hhome hswept
  have hsteps : steps + 3 * c.magazine.size = steps + 2 * labels.length + flags.length := by
    omega
  rw [hsteps]
  exact ⟨hcodes.append hreports, hhome, hswept⟩

/-- The acknowledgement on the way home takes the changer back to where the scan began. -/
theorem hear_ok (h : Sweeping c d steps) (hr : c.state.atRest = true)
    (hs : d.state = State.movingToHomePos.onSide c.state.mounted) (label : Option String) :
    d.hear .ok label
      = d.dropPending.arrive .programFinished c.state Event.programFinished.id none := by
  have hscan : d.state.scanning = true := by
    rw [hs]
    cases c.state.mounted <;> rfl
  have hwears : d.state.Wears d.machine.tag := by
    unfold State.Wears
    rw [State.workTag?_of_scanning hscan]
    exact h.tag
  have htarget : Event.programFinished.target? d.state = some c.state := by
    rw [hs, State.eq_onSide_of_atRest hr]
    cases c.state.mounted <;> rfl
  have hsettled := State.ne_homeSwitch_of_scanning hscan
  have hto : c.state ≠ .homeSwitch := by
    intro heq
    rw [heq] at hr
    cases hr
  rw [Changer.hear_ok_of_target hwears hsettled htarget hto, Changer.acknowledge_of_scanning hscan]

/-- The way home is on the same side; only it is under another tag. -/
theorem log_home (h : Sweeping c d steps) (event : Event) (tag : String) :
    ∃ log, (d.dropPending.arrive event c.state tag none).told = c.told ++ log ∧
      log.length = steps + 1 ∧
      (∀ t ∈ log, t.source.mounted = c.state.mounted ∧ t.target.mounted = c.state.mounted) ∧
      ∀ t ∈ log.dropLast, t.tag = Event.scanSamples.id := by
  obtain ⟨log, htold, hlength, hlog⟩ := h.log
  refine ⟨_, told_arrive htold, ?_, ?_, ?_⟩
  · rw [List.length_append, hlength]
    rfl
  · intro t ht
    rcases List.mem_append.mp ht with hbefore | hlast
    · exact (hlog t hbefore).2
    · obtain rfl := List.mem_singleton.mp hlast
      exact ⟨h.side, rfl⟩
  · intro t ht
    rw [List.dropLast_concat] at ht
    exact (hlog t ht).1

end Sweeping

/-! ### The whole scan -/

/-- The plan of a scan. -/
def Plan.scan : Plan := ⟨.scan, .scanSamples, Event.scanSamples.id, none⟩

theorem Changer.plan_scan {c : Changer} (hr : c.state.atRest = true) :
    c.plan .scan = (c, .ok (some .scan)) := by
  simp only [plan, planScan, requireRest, if_pos hr]
  rfl

theorem Changer.step_scan {c : Changer} {answer : Order → Answer} (hr : c.state.atRest = true)
    (haccepts : answer (.run Program.scan.fileName Event.scanSamples.id) = .ok ()) :
    c.step (.command .scan answer) = c.started .scan := by
  have hexecute := execute_of_planned (Planned.scan hr)
  simp only [step, Changer.command, plan_scan hr]
  show (((c.execute .scan).map _).carryOut answer).changer = _
  unfold Plan.scan
  rw [hexecute]
  simp only [Action.map, Action.carryOut, haccepts]

/-- The start of a scan is its first transition. -/
theorem Sweeping.started {c : Changer} (hr : c.state.atRest = true) :
    (c.started .scan).state = State.movingToScanPos.onSide c.state.mounted ∧
      Sweeping c (c.started .scan) 1 := by
  have hgoal : Plan.scan.goal c.state = State.movingToScanPos.onSide c.state.mounted := by
    rw [State.eq_onSide_of_atRest hr]
    cases c.state.mounted <;> rfl
  have hside : (Plan.scan.goal c.state).mounted = c.state.mounted := by
    rw [hgoal]
    cases c.state.mounted <;> rfl
  refine ⟨hgoal, rfl, hside, rfl, rfl, rfl, _, rfl, rfl, ?_⟩
  intro t ht
  obtain rfl := List.mem_singleton.mp ht
  exact ⟨rfl, rfl, hside⟩

/-- What a complete scan of `c` leaves. -/
structure Scanned (c after : Changer) (flags : List Bool) : Prop where
  state : after.state = c.state
  mounted : after.mounted = c.mounted
  count : after.machine.count = c.machine.count + (3 * c.magazine.size + 2)
  /-- Every transition stays on the side, and all but the last bear the tag of the scan. -/
  log : ∃ log, after.told = c.told ++ log ∧ log.length = 3 * c.magazine.size + 2 ∧
    (∀ t ∈ log, t.source.mounted = c.state.mounted ∧ t.target.mounted = c.state.mounted) ∧
    ∀ t ∈ log.dropLast, t.tag = Event.scanSamples.id
  kept : ∀ (slot : Nat) (id : String), c.mounted = some id → c.magazine.slots[slot]? = some id →
    after.magazine.slots[slot]? = some id
  reported : ∀ (slot : Nat) (held : String) (flag : Bool), c.magazine.slots[slot]? = some held →
    c.mounted ≠ some held → flags[slot]? = some flag →
    ∃ id, after.magazine.slots[slot]? = some id ∧ (id ≠ "" ↔ flag = true)

/-- **A complete scan.**  Let the changer be at rest, with the mounted sample, if there is one,
stored in the magazine.  When the robot accepts a scan, looks at every slot, reports on every slot,
and acknowledges, the changer is back where it was, whatever the camera and the decoder made of each
look.  On the way it stays on its side of the mounted axis and under the tag of the scan. -/
theorem scan_returns (c : Changer) (answer : Order → Answer) (looks : List (Decoder × Grab))
    (flags : List Bool) (hrest : c.state.atRest = true) (hsize : 0 < c.magazine.size)
    (hstored : ∀ id, c.mounted = some id → ∃ slot, c.magazine.slotOf? id = some slot)
    (haccepts : answer (.run Program.scan.fileName Event.scanSamples.id) = .ok ())
    (hlooks : looks.length = c.magazine.size) (hflags : flags.length = c.magazine.size) :
    let begun := c.step (.command .scan answer)
    let moves := sweep (looks.map fun look => look.2.label? look.1) flags
    Changer.Along (fun d => ∃ steps, Sweeping c d steps) begun moves ∧
      Scanned c ((begun.run moves).step (.message .ok none)) flags := by
  intro begun moves
  have hstows : c.Stows := Changer.stows_of_slotOf? hstored
  have hbegun : begun = c.started .scan := Changer.step_scan hrest haccepts
  have hspares : Spares c begun := hbegun ▸ Spares.started c .scan
  obtain ⟨hmoving, hstart⟩ := Sweeping.started hrest
  rw [← hbegun] at hmoving hstart
  have hlabels : (looks.map fun look => look.2.label? look.1).length = c.magazine.size := by
    rw [List.length_map, hlooks]
  obtain ⟨halong, hhome, hswept⟩ := hstart.run_sweep hsize hlabels hflags hmoving
  have hsteps : 1 + 3 * c.magazine.size = 3 * c.magazine.size + 1 := Nat.add_comm _ _
  rw [hsteps] at hswept
  refine ⟨halong, ?_⟩
  -- the acknowledgement is one more transition, and it leaves the slots alone
  show Scanned c ((begun.run moves).hear .ok none) flags
  rw [hswept.hear_ok hrest hhome none]
  exact {
    state := rfl
    mounted := hswept.mounted
    count := congrArg (· + 1) hswept.count
    log := hswept.log_home _ _
    kept := by
      intro slot id hm hheld
      have hlt : slot < flags.length := hflags ▸ Magazine.lt_size_of_held hheld
      obtain ⟨other, hother⟩ := hstored id hm
      have hid : id ≠ "" := (Magazine.slotOf?_eq_some_iff.mp hother).1
      obtain ⟨e, he, hseen⟩ := hspares.run_sweep hstows _ (List.getElem?_eq_getElem hlt)
      exact hseen.trans (he.seen_kept hm hheld hid _)
    reported := by
      intro slot held flag hheld hne hflag
      obtain ⟨e, he, hseen⟩ := hspares.run_sweep hstows _ hflag
      obtain ⟨id, hid, hiff⟩ := he.seen_reported hheld hne flag
      exact ⟨id, hseen.trans hid, hiff⟩ }

/-- There are two slots, and the sample of the first one is mounted. -/
def holdingFirst : Changer :=
  (Changer.ofSize 2).run (loadOne ++ [.command (.mount "@0") willing, .message .ok none])

/-- The camera crashes at the first slot, and at the second one it shows a label. -/
def crashThenLabel : List (Decoder × Grab) :=
  [(fun _ => none, .crashed), (fun _ => some "A", .picture (Picture.plain 1 1 0))]

theorem scan_returns_holding :
    holdingFirst.state.atRest = true ∧ 0 < holdingFirst.magazine.size ∧
      (∀ id, holdingFirst.mounted = some id →
        ∃ slot, holdingFirst.magazine.slotOf? id = some slot) ∧
      willing (.run Program.scan.fileName Event.scanSamples.id) = .ok () ∧
      let begun := holdingFirst.step (.command .scan willing)
      let moves := sweep [none, some "A"] [false, true]
      Changer.Along (fun d => ∃ steps, Sweeping holdingFirst d steps) begun moves ∧
        Scanned holdingFirst ((begun.run moves).step (.message .ok none)) [false, true] := by
  have hrest : holdingFirst.state.atRest = true := by decide +kernel
  have hsize : 0 < holdingFirst.magazine.size := by decide +kernel
  have hstored : ∀ id, holdingFirst.mounted = some id →
      ∃ slot, holdingFirst.magazine.slotOf? id = some slot := by
    have hm : holdingFirst.mounted = some "@0" := by decide +kernel
    intro id hid
    rw [hm] at hid
    cases hid
    exact ⟨0, by decide +kernel⟩
  exact ⟨hrest, hsize, hstored, rfl,
    scan_returns holdingFirst willing crashThenLabel [false, true] hrest hsize hstored rfl
      (by decide +kernel) (by decide +kernel)⟩

end Autosampler

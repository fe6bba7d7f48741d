import Autosampler.Proofs.Phases

/-!
# Reports in any order

The report on the last slot ends the phase of the reports.  The reports that come after it find a
machine that refuses their steps, but they are noted all the same, and the note on one slot depends
on no other slot.  So the order of the reports does not matter.

* `reportsIn` — reports on slots in some order;
* `Machine.hear_slot_tag` — a report keeps the tag;
* `Reporting`, `Reporting.report`, `Reporting.run_kept` — what reports leave alone;
* `Changer.run_reportsIn_slots` — what they leave in the slots;
* `Reporting.run_all`, `reports_in_any_order` — one report on each slot.
-/

namespace Autosampler

/-- Reports on the slots of a list, one after the other. -/
def reportsIn (flag : Nat → Bool) (order : List Nat) : List Move :=
  order.map fun slot => .message (.slot (slot + 1) (flag slot)) none

/-! ### The machine -/

namespace Machine

variable {m : Machine} {event : Event} {tag : String} {phase : ScanPhase} {side : Bool}

theorem advance_tag (htag : m.tag = some tag) (h : event.target? m.state ≠ some .homeSwitch) :
    (m.advance event).machine.tag = some tag := by
  rcases fire_cases ⟨m.tag, none⟩ h with ⟨-, hsame⟩ | ⟨state, -, hmoved⟩
  · exact (congrArg Machine.tag hsame).trans htag
  · refine (congrArg Machine.tag hmoved).trans ?_
    show some (m.tag.getD event.id) = some tag
    rw [htag, Option.getD_some]

/-- During a scan, a report keeps the tag. -/
theorem hear_slot_tag (htag : m.tag = some tag) (hs : m.state = phase.state.onSide side)
    (size slot : Nat) (present : Bool) :
    (m.hear size (.slot slot present)).1.tag = some tag := by
  simp only [hear]
  split
  · exact htag
  · refine advance_tag htag ?_
    rw [hs]
    unfold stepAfter
    split <;> cases phase <;> cases side <;> decide

end Machine

/-! ### What reports leave alone -/

namespace Changer

variable {c : Changer}

theorem notePresence_cursor (slot : Nat) (present : Bool) :
    (c.notePresence slot present).1.magazine.cursor = c.magazine.cursor := by
  rw [notePresence_magazine]
  split
  · rfl
  cases hheld : c.magazine.slots[slot]? with
  | none => simp only [Magazine.apply, Magazine.setPresence, hheld, Except.map, Magazine.orKeep]
  | some held => rw [Magazine.apply_presence hheld]; rfl

theorem hear_slot_cursor (number : Nat) (present : Bool) (label : Option String) :
    (c.hear (.slot number present) label).magazine.cursor = c.magazine.cursor := by
  rw [hear_slot]
  split
  · rfl
  · exact notePresence_cursor (number - 1) present

end Changer

/-- From `c` to `d`, slots were reported on, and the scan has come to a phase. -/
structure Reporting (c d : Changer) (phase : ScanPhase) : Prop where
  state : d.state = phase.state.onSide c.state.mounted
  tag : d.machine.tag = c.machine.tag
  mounted : d.mounted = c.mounted
  size : d.magazine.size = c.magazine.size
  cursor : d.magazine.cursor = c.magazine.cursor

namespace Reporting

variable {c d : Changer} {phase : ScanPhase} {tag : String}

/-- One report. -/
theorem report (h : Reporting c d phase) (htag : c.machine.tag = some tag) (slot : Nat)
    (present : Bool) (label : Option String) :
    Reporting c (d.hear (.slot slot present) label)
      (phase.next c.magazine.size (.slot slot present)) := by
  have hfollows := d.hear_follows (.slot slot present) label
  rw [h.size] at hfollows
  exact {
    state := (congrArg Machine.state hfollows.machine).trans
      (Machine.hear_phase h.state c.magazine.size _)
    tag := by
      rw [hfollows.machine, Machine.hear_slot_tag (h.tag.trans htag) h.state, htag]
    mounted := (Changer.hear_slot_mounted slot label).trans h.mounted
    size := hfollows.size.trans h.size
    cursor := (Changer.hear_slot_cursor slot present label).trans h.cursor }

/-- Reports that do not end the phase. -/
theorem run_kept (h : Reporting c d phase) (htag : c.machine.tag = some tag)
    (flag : Nat → Bool) (order : List Nat)
    (hkept : ∀ slot ∈ order, phase.next c.magazine.size (.slot (slot + 1) (flag slot)) = phase) :
    Reporting c (d.run (reportsIn flag order)) phase := by
  induction order generalizing d with
  | nil => exact h
  | cons slot order ih =>
    have hfirst := h.report htag (slot + 1) (flag slot) none
    rw [hkept slot List.mem_cons_self] at hfirst
    exact ih hfirst fun later hlater => hkept later (List.mem_cons_of_mem slot hlater)

/-- Reports with the last slot among them end the phase of the reports, wherever it stands. -/
theorem run_returning (h : Reporting c d .reporting) (htag : c.machine.tag = some tag)
    (flag : Nat → Bool) {order : List Nat} {last : Nat} (hlast : last ∈ order)
    (hsize : last + 1 = c.magazine.size) :
    Reporting c (d.run (reportsIn flag order)) .returning := by
  obtain ⟨before, after, rfl, hbefore⟩ := List.eq_append_cons_of_mem hlast
  have hearly := h.run_kept htag flag before fun slot hslot => by
    have hne : slot + 1 ≠ c.magazine.size := by
      intro heq
      have : slot = last := by omega
      exact hbefore (this ▸ hslot)
    exact if_neg hne
  have hends := hearly.report htag (last + 1) (flag last) none
  rw [show ScanPhase.reporting.next c.magazine.size (.slot (last + 1) (flag last)) = .returning from
    if_pos hsize] at hends
  have hlate := hends.run_kept htag flag after fun _ _ => rfl
  rw [reportsIn, List.map_append, Changer.run_append]
  exact hlate

end Reporting

/-! ### What reports leave in the slots -/

theorem Magazine.eq_of_slots {m m' : Magazine} (hcursor : m.cursor = m'.cursor)
    (hslots : ∀ slot : Nat, m.slots[slot]? = m'.slots[slot]?) : m = m' := by
  cases m
  cases m'
  rw [Magazine.mk.injEq]
  exact ⟨List.ext_getElem? hslots, hcursor⟩

/-- Each slot of the list is as its report leaves it, and the others are as before. -/
theorem Changer.run_reportsIn_slots (c : Changer) (flag : Nat → Bool) {order : List Nat}
    (horder : order.Nodup) (slot : Nat) :
    (c.run (reportsIn flag order)).magazine.slots[slot]?
      = if slot ∈ order then c.seen slot (flag slot) else c.magazine.slots[slot]? := by
  induction order generalizing c with
  | nil => rfl
  | cons first order ih =>
    obtain ⟨hfirst, hrest⟩ := List.nodup_cons.mp horder
    have hslots := c.hear_slot_slots first (flag first) none slot
    refine (ih (c.hear (.slot (first + 1) (flag first)) none) hrest).trans ?_
    by_cases hslot : first = slot
    · subst hslot
      rw [if_pos rfl] at hslots
      rw [if_neg hfirst, if_pos List.mem_cons_self, hslots]
    · rw [if_neg hslot] at hslots
      rw [Changer.seen_congr (Changer.hear_slot_mounted _ _) hslots, hslots]
      simp only [List.mem_cons, Ne.symm hslot, false_or]

/-! ### One report on each slot -/

/-- Reports on all slots, in some order, end the phase, and each slot is as its report leaves it. -/
theorem Reporting.run_all {c : Changer} {tag : String} (h : Reporting c c .reporting)
    (htag : c.machine.tag = some tag) (hsize : 0 < c.magazine.size) (flag : Nat → Bool)
    {order : List Nat} (horder : order.Perm (List.range c.magazine.size)) :
    Reporting c (c.run (reportsIn flag order)) .returning ∧ ∀ slot : Nat,
      (c.run (reportsIn flag order)).magazine.slots[slot]? = c.seen slot (flag slot) := by
  have hmem (slot : Nat) : slot ∈ order ↔ slot < c.magazine.size := by
    rw [horder.mem_iff, List.mem_range]
  have hlast : c.magazine.size - 1 ∈ order := (hmem _).mpr (by omega)
  refine ⟨h.run_returning htag flag hlast (by omega), fun slot => ?_⟩
  rw [c.run_reportsIn_slots flag (horder.nodup_iff.mpr List.nodup_range) slot]
  split
  · rfl
  · -- there is no such slot, before or after
    rename_i hout
    have hnone : c.magazine.slots[slot]? = none :=
      List.getElem?_eq_none (Nat.le_of_not_lt fun hlt => hout ((hmem slot).mpr hlt))
    rw [Changer.seen, hnone]
    rfl

/-- **Reports in any order.**  During the reports of a scan, with a tag recorded, each slot is
reported on once, in some order.  Then the arm is on its way home on the same side, also if the last
slot came early; tag and mounted sample are as before; each slot is as its own report leaves it; and
the magazine is the same as after the reports in the order of the slots. -/
theorem reports_in_any_order (c : Changer) {tag : String} (flag : Nat → Bool) (order : List Nat)
    (hsize : 0 < c.magazine.size)
    (hstate : c.state = .presenceDetection ∨ c.state = .presenceDetectionMounted)
    (htag : c.machine.tag = some tag) (horder : order.Perm (List.range c.magazine.size)) :
    let after := c.run (reportsIn flag order)
    after.state = State.movingToHomePos.onSide c.state.mounted ∧ after.machine.tag = some tag ∧
      after.mounted = c.mounted ∧
      (∀ slot : Nat, after.magazine.slots[slot]? = c.seen slot (flag slot)) ∧
      after.magazine = (c.run (reportsIn flag (List.range c.magazine.size))).magazine := by
  have hstart : Reporting c c .reporting := by
    refine ⟨?_, rfl, rfl, rfl, rfl⟩
    rcases hstate with hs | hs <;> rw [hs] <;> rfl
  intro after
  obtain ⟨hafter, hslots⟩ := hstart.run_all htag hsize flag horder
  obtain ⟨hinTurn, hslots'⟩ := hstart.run_all htag hsize flag (List.Perm.refl _)
  refine ⟨hafter.state, hafter.tag.trans htag, hafter.mounted, hslots, ?_⟩
  exact Magazine.eq_of_slots (hafter.cursor.trans hinTurn.cursor.symm) fun slot =>
    (hslots slot).trans (hslots' slot).symm

/-- There are three slots, the sample of the first one is mounted, and a scan has come to the
reports. -/
def reportingThree : Changer :=
  (Changer.ofSize 3).run
    (loadOne ++ [.command (.mount "@0") willing, .message .ok none, .command .scan willing] ++
      codesFrom 0 [none, some "A", none])

/-- The last slot comes first, and it is the only one that is reported as occupied. -/
theorem reports_in_any_order_last_first :
    let flag := fun slot => decide (slot = 2)
    let after := reportingThree.run (reportsIn flag [2, 0, 1])
    0 < reportingThree.magazine.size ∧ reportingThree.state = .presenceDetectionMounted ∧
      reportingThree.machine.tag = some Event.scanSamples.id ∧
      [2, 0, 1].Perm (List.range reportingThree.magazine.size) ∧
      after.state = .movingToHomePosMounted ∧ after.mounted = some "@0" ∧
      after.magazine.slots = ["@0", "", "@2"] := by
  intro flag after
  have hsize : reportingThree.magazine.size = 3 := by decide +kernel
  have hstate : reportingThree.state = .presenceDetectionMounted := by decide +kernel
  have htag : reportingThree.machine.tag = some Event.scanSamples.id := by decide +kernel
  have hmounted : reportingThree.mounted = some "@0" := by decide +kernel
  have hpos : 0 < reportingThree.magazine.size := hsize ▸ Nat.succ_pos 2
  have horder : [2, 0, 1].Perm (List.range reportingThree.magazine.size) := by
    rw [hsize]
    decide
  obtain ⟨hhome, -, hkept, -, hsame⟩ := reports_in_any_order reportingThree flag [2, 0, 1] hpos
    (Or.inr hstate) htag horder
  refine ⟨hpos, hstate, htag, horder, ?_, hkept.trans hmounted, ?_⟩
  · rw [hstate] at hhome
    exact hhome
  · rw [show after.magazine = _ from hsame, hsize]
    decide +kernel

end Autosampler

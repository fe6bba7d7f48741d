import Autosampler.Proofs.Scan

/-!
# The identifiers after a complete scan

A scan notes one label after the other, against a magazine whose later slots are still as they were
before.  A label that another slot holds at that moment is refused, and it does not come again.  So
new samples are identified, and a sample that has moved up is, once its old slot was given a new
name; a sample that has moved down, or two samples that were exchanged, keep the old names.

* `Magazine.relabel`, `Magazine.relabelFrom` — a label noted at a slot, and one label after the
  other;
* `Magazine.getElem?_relabel_eq_some_iff` — when a label is noted;
* `Magazine.getElem?_relabelFrom_eq_some_iff` — when it is noted on the way along the slots;
* `Sweeping.run_codes_magazine` — the looks of a scan are such a way;
* `Naming` — the labels that are read name different samples;
* `decoded_stored_iff` — which labels are stored at the end of a scan, and when all of them are.
-/

namespace Autosampler

namespace Magazine

variable {m : Magazine} {slot other first : Nat} {id : String} {label : Option String}
  {labels : List (Option String)}

/-! ### One label -/

/-- The magazine after a look at a slot. -/
def relabel (m : Magazine) (slot : Nat) : Option String → Magazine
  | some id => m.apply (.update slot id)
  | none => m

theorem size_relabel (m : Magazine) (slot : Nat) (label : Option String) :
    (m.relabel slot label).size = m.size := by
  cases label with
  | none => rfl
  | some id => exact size_apply m _

theorem getElem?_relabel_of_ne (h : slot ≠ other) :
    (m.relabel slot label).slots[other]? = m.slots[other]? := by
  cases label with
  | none => rfl
  | some id => exact getElem?_apply fun hreach : other = slot => h hreach.symm

/-- A label that no slot holds is noted. -/
theorem apply_update_of_new (hlt : slot < m.size) (hid : id ≠ "")
    (hnew : ∀ other : Nat, m.slots[other]? ≠ some id) :
    m.apply (.update slot id) = m.put slot id := by
  have hheld : m.slots[slot]? = some m.slots[slot] := List.getElem?_eq_getElem hlt
  rw [apply, update_of_new hheld (slotOf?_eq_none_iff.mpr (Or.inr hnew)) hid]
  rfl

/-- A label that a slot holds already changes nothing. -/
theorem slots_update_of_held (h : m.slots[other]? = some id) (hid : id ≠ "") :
    (m.apply (.update slot id)).slots = m.slots := by
  have happlied := m.applied (.update slot id)
  generalize m.apply (.update slot id) = after at happlied
  cases happlied with
  | same hslots => exact hslots
  | updated place =>
    rcases place with hfound | hnone
    · rw [put_held (slotOf?_eq_some_iff.mp hfound).2.1]
    · exact absurd h ((slotOf?_eq_none_iff.mp hnone).resolve_left hid other)

/-- A label is in its slot afterwards if it was there before or no other slot held it. -/
theorem getElem?_relabel_eq_some_iff (hlt : slot < m.size) (hid : id ≠ "") :
    (m.relabel slot (some id)).slots[slot]? = some id ↔
      m.slots[slot]? = some id ∨ ∀ other, other ≠ slot → m.slots[other]? ≠ some id := by
  show (m.apply (.update slot id)).slots[slot]? = some id ↔ _
  by_cases hnew : ∀ other : Nat, m.slots[other]? ≠ some id
  · rw [apply_update_of_new hlt hid hnew, getElem?_put_self hlt]
    exact ⟨fun _ => Or.inr fun other _ => hnew other, fun _ => rfl⟩
  · obtain ⟨other, hother⟩ := Classical.not_forall.mp hnew
    have hheld : m.slots[other]? = some id := Decidable.not_not.mp hother
    rw [slots_update_of_held hheld hid]
    refine ⟨Or.inl, ?_⟩
    rintro (hhere | hfree)
    · exact hhere
    · have hsame : other = slot := Decidable.byContradiction fun hne => hfree other hne hheld
      exact hsame ▸ hheld

/-- A look leaves its slot as it was, or with the label. -/
theorem getElem?_relabel_cases (hlt : slot < m.size) (label : Option String) :
    (m.relabel slot label).slots[slot]? = m.slots[slot]? ∨
      (m.relabel slot label).slots[slot]? = label := by
  cases label with
  | none => exact Or.inl rfl
  | some id =>
    have happlied := m.applied (.update slot id)
    show (m.apply (.update slot id)).slots[slot]? = _ ∨ (m.apply (.update slot id)).slots[slot]? = _
    generalize m.apply (.update slot id) = after at happlied
    cases happlied with
    | same hslots => exact Or.inl (by rw [hslots])
    | updated _ => exact Or.inr (getElem?_put_self hlt)

/-! ### One label after the other -/

/-- The magazine after looks at the slots from `first` on. -/
def relabelFrom (m : Magazine) : Nat → List (Option String) → Magazine
  | _, [] => m
  | first, label :: labels => (m.relabel first label).relabelFrom (first + 1) labels

theorem size_relabelFrom (m : Magazine) (first : Nat) (labels : List (Option String)) :
    (m.relabelFrom first labels).size = m.size := by
  induction labels generalizing m first with
  | nil => rfl
  | cons label labels ih => exact (ih _ _).trans (size_relabel m first label)

theorem relabelFrom_append (m : Magazine) (first : Nat) (before after : List (Option String)) :
    m.relabelFrom first (before ++ after)
      = (m.relabelFrom first before).relabelFrom (first + before.length) after := by
  induction before generalizing m first with
  | nil => rfl
  | cons label before ih =>
    have hlength : first + (label :: before).length = first + 1 + before.length := by
      rw [List.length_cons]
      omega
    rw [hlength]
    exact ih (m.relabel first label) (first + 1)

/-- The slots that are not looked at stay as they are. -/
theorem getElem?_relabelFrom_of_out (h : other < first ∨ first + labels.length ≤ other) :
    (m.relabelFrom first labels).slots[other]? = m.slots[other]? := by
  induction labels generalizing m first with
  | nil => rfl
  | cons label labels ih =>
    rw [List.length_cons] at h
    exact (ih (by omega)).trans (getElem?_relabel_of_ne (by omega))

/-- The magazine when the look at a slot is due. -/
def whenDue (m : Magazine) (labels : List (Option String)) (slot : Nat) : Magazine :=
  m.relabelFrom 0 (labels.take slot)

theorem relabelFrom_eq_whenDue (h : labels[slot]? = some label) :
    m.relabelFrom 0 labels
      = ((m.whenDue labels slot).relabel slot label).relabelFrom (slot + 1)
        (labels.drop (slot + 1)) := by
  obtain ⟨hlt, hlabel⟩ := List.getElem?_eq_some_iff.mp h
  have hsplit : labels = labels.take slot ++ label :: labels.drop (slot + 1) := by
    rw [← hlabel, ← List.drop_eq_getElem_cons hlt, List.take_append_drop]
  have hlength : 0 + (labels.take slot).length = slot := by
    rw [List.length_take]
    omega
  calc m.relabelFrom 0 labels
      = m.relabelFrom 0 (labels.take slot ++ label :: labels.drop (slot + 1)) :=
        congrArg (m.relabelFrom 0) hsplit
    _ = _ := by
        rw [relabelFrom_append, hlength]
        rfl

/-- The slots that are still to come are as they were in the beginning. -/
theorem getElem?_whenDue_of_le (h : slot ≤ other) :
    (m.whenDue labels slot).slots[other]? = m.slots[other]? := by
  refine getElem?_relabelFrom_of_out (Or.inr ?_)
  rw [List.length_take]
  omega

/-- The slots that have been looked at are as they will be in the end. -/
theorem getElem?_whenDue_of_lt (hlabel : labels[slot]? = some label) (h : other < slot) :
    (m.whenDue labels slot).slots[other]? = (m.relabelFrom 0 labels).slots[other]? := by
  rw [relabelFrom_eq_whenDue hlabel, getElem?_relabelFrom_of_out (Or.inl (by omega)),
    getElem?_relabel_of_ne (by omega)]

/-- In the end, a slot is as its look leaves it. -/
theorem getElem?_relabelFrom_self (h : labels[slot]? = some label) :
    (m.relabelFrom 0 labels).slots[slot]?
      = ((m.whenDue labels slot).relabel slot label).slots[slot]? := by
  rw [relabelFrom_eq_whenDue h, getElem?_relabelFrom_of_out (Or.inl (Nat.lt_succ_self slot))]

theorem size_whenDue (m : Magazine) (labels : List (Option String)) (slot : Nat) :
    (m.whenDue labels slot).size = m.size := size_relabelFrom m 0 _

theorem getElem?_relabelFrom_cases (hlt : slot < m.size) (h : labels[slot]? = some label) :
    (m.relabelFrom 0 labels).slots[slot]? = m.slots[slot]? ∨
      (m.relabelFrom 0 labels).slots[slot]? = label := by
  have hdue : (m.whenDue labels slot).slots[slot]? = m.slots[slot]? :=
    getElem?_whenDue_of_le (Nat.le_refl slot)
  rw [getElem?_relabelFrom_self h, ← hdue]
  exact getElem?_relabel_cases (by rw [size_whenDue]; exact hlt) label

/-- Along the slots, a label is stored exactly if its slot held it already, or if every other slot
that held it is passed before and is given a label of its own. -/
theorem getElem?_relabelFrom_eq_some_iff (hlt : slot < m.size) (hid : id ≠ "")
    (hlen : labels.length = m.size) (hlabel : labels[slot]? = some (some id))
    (honce : ∀ other, labels[other]? = some (some id) → other = slot) :
    (m.relabelFrom 0 labels).slots[slot]? = some id ↔
      m.slots[slot]? = some id ∨
        ∀ other, other ≠ slot → m.slots[other]? = some id →
          other < slot ∧ ∃ new, labels[other]? = some (some new) ∧
            (m.relabelFrom 0 labels).slots[other]? = some new := by
  -- an earlier slot is as it was, or it holds a label of its own
  have hpassed (other : Nat) (hlt' : other < m.size) :
      (m.relabelFrom 0 labels).slots[other]? = m.slots[other]? ∨
        ∃ new, labels[other]? = some (some new) ∧
          (m.relabelFrom 0 labels).slots[other]? = some new := by
    have hthere : labels[other]? = some labels[other] := List.getElem?_eq_getElem (by omega)
    rcases getElem?_relabelFrom_cases hlt' hthere with hsame | hnew
    · exact Or.inl hsame
    · have hslot : (m.relabelFrom 0 labels).slots[other]? ≠ none := by
        have hinside : other < (m.relabelFrom 0 labels).size := by
          rw [size_relabelFrom]
          exact hlt'
        rw [List.getElem?_eq_getElem hinside]
        exact Option.some_ne_none _
      cases hread : labels[other] with
      | none => exact absurd (hnew.trans hread) hslot
      | some new => exact Or.inr ⟨new, hthere.trans (congrArg some hread), hnew.trans hread⟩
  rw [getElem?_relabelFrom_self hlabel,
    getElem?_relabel_eq_some_iff (by rw [size_whenDue]; exact hlt) hid,
    getElem?_whenDue_of_le (Nat.le_refl _)]
  refine or_congr_right ⟨?_, ?_⟩
  · intro hfree other hne hheld
    have hdue := hfree other hne
    by_cases hlate : slot ≤ other
    · rw [getElem?_whenDue_of_le hlate] at hdue
      exact absurd hheld hdue
    have hearly : other < slot := Nat.lt_of_not_le hlate
    rw [getElem?_whenDue_of_lt hlabel hearly] at hdue
    rcases hpassed other (Nat.lt_trans hearly hlt) with hsame | hnew
    · exact absurd (hsame.trans hheld) hdue
    · exact ⟨hearly, hnew⟩
  · intro hmoved other hne hdue
    by_cases hlate : slot ≤ other
    · rw [getElem?_whenDue_of_le hlate] at hdue
      exact absurd (hmoved other hne hdue).1 (Nat.not_lt_of_le hlate)
    have hearly : other < slot := Nat.lt_of_not_le hlate
    rw [getElem?_whenDue_of_lt hlabel hearly] at hdue
    have hnew : ∃ new, labels[other]? = some (some new) ∧
        (m.relabelFrom 0 labels).slots[other]? = some new := by
      rcases hpassed other (Nat.lt_trans hearly hlt) with hsame | hnew
      · exact (hmoved other hne (hsame.symm.trans hdue)).2
      · exact hnew
    -- the label that the earlier slot holds now would be read twice
    obtain ⟨new, hread, hholds⟩ := hnew
    rw [hdue] at hholds
    cases hholds
    exact hne (honce other hread)

end Magazine

/-! ### The looks of a scan -/

/-- With nothing mounted, a look on the way along the slots notes its label. -/
theorem Changer.hear_code_relabel {c : Changer} {slot : Nat} (hm : c.mounted = none)
    (hlt : slot < c.magazine.size)
    (hs : c.state = .movingToScanPos ∨ c.state = .movingToScanPosMounted)
    (label : Option String) :
    (c.hear (.qr (slot + 1)) label).magazine = c.magazine.relabel slot label := by
  have hpasses : ¬(c.magazine.size < slot + 1 ∨ c.reserved (slot + 1 - 1) = true) := by
    rw [reserved_of_mounted_eq_none hm]
    rintro (hout | hreserved)
    · omega
    · cases hreserved
  rw [hear_code_magazine]
  cases label with
  | none => rfl
  | some id =>
    rw [change?, if_neg hpasses, if_pos hs]
    rfl

namespace Sweeping

variable {c d : Changer} {steps first : Nat}

/-- With nothing mounted, the looks of a scan note one label after the other. -/
theorem run_codes_magazine (h : Sweeping c d steps) (hm : c.mounted = none)
    (labels : List (Option String)) (hlen : first + labels.length = c.magazine.size)
    (hs : d.state = (State.along c.magazine.size first .movingToScanPos .presenceDetection).onSide
      c.state.mounted) :
    (d.run (codesFrom first labels)).magazine = d.magazine.relabelFrom first labels := by
  induction labels generalizing d steps first with
  | nil => rfl
  | cons label labels ih =>
    rw [List.length_cons] at hlen
    have hlt : first < c.magazine.size := by omega
    rw [State.along_of_lt hlt] at hs
    obtain ⟨hstate, hlook⟩ := h.code hlt hs label
    have hrest : first + 1 + labels.length = c.magazine.size := by omega
    have hnoted : (d.hear (.qr (first + 1)) label).magazine = d.magazine.relabel first label := by
      refine Changer.hear_code_relabel (h.mounted.trans hm) (h.size.symm ▸ hlt) ?_ label
      exact hs ▸ State.movingToScanPos_onSide _
    have hlater := ih hlook hrest hstate
    rw [hnoted] at hlater
    exact hlater

end Sweeping

/-! ### The whole scan -/

/-- A report of a sample does not make up a name that is no placeholder. -/
theorem sight_true_eq_iff {slot : Nat} {held id : String} (hid : id ≠ "")
    (hplain : id ≠ placeholder slot) : sight slot held true = id ↔ held = id := by
  unfold sight
  rw [if_pos rfl]
  by_cases hempty : held = ""
  · rw [if_pos hempty, hempty]
    exact ⟨fun h => absurd h.symm hplain, fun h => absurd h.symm hid⟩
  · rw [if_neg hempty]

/-- The labels that are read name different samples, and none of them reads like a placeholder. -/
structure Naming (labels : List (Option String)) : Prop where
  distinct : ∀ (i j : Nat) (id : String),
    labels[i]? = some (some id) → labels[j]? = some (some id) → i = j
  ne_empty : ∀ id, some id ∈ labels → id ≠ ""
  plain : ∀ id, some id ∈ labels → id.toList.head? ≠ some '@'

namespace Sweeping

variable {c d : Changer} {steps slot : Nat} {id : String} {labels : List (Option String)}
  {flags : List Bool}

/-- With nothing mounted, a label that is no placeholder is in its slot after the scan exactly if
the looks have stored it there, as the slot is reported as occupied. -/
theorem run_sweep_eq_some_iff (h : Sweeping c d steps) (hm : c.mounted = none)
    (hsize : 0 < c.magazine.size) (hlabels : labels.length = c.magazine.size)
    (hs : d.state = State.movingToScanPos.onSide c.state.mounted) (hid : id ≠ "")
    (hplain : id ≠ placeholder slot) (hflag : flags[slot]? = some true) :
    (d.run (sweep labels flags)).magazine.slots[slot]? = some id ↔
      (d.magazine.relabelFrom 0 labels).slots[slot]? = some id := by
  have hlen : 0 + labels.length = c.magazine.size := (Nat.zero_add _).trans hlabels
  have hmoving : d.state = (State.along c.magazine.size 0 .movingToScanPos
      .presenceDetection).onSide c.state.mounted := by
    rw [State.along_of_lt hsize, hs]
  obtain ⟨-, -, hlooked⟩ := h.run_codes labels hlen hmoving
  have hlast := ((d.run (codesFrom 0 labels)).run_reports_slots 0 flags).2 slot true hflag
  rw [← Changer.run_append, Nat.zero_add,
    Changer.seen_of_mounted_eq_none (hlooked.mounted.trans hm),
    h.run_codes_magazine hm labels hlen hmoving] at hlast
  show ((d.run (codesFrom 0 labels ++ reportsFrom 0 flags)).magazine.slots[slot]? = some id ↔ _)
  rw [hlast, Option.map_eq_some_iff]
  constructor
  · rintro ⟨held, hheld, hsight⟩
    rwa [(sight_true_eq_iff hid hplain).mp hsight] at hheld
  · intro hheld
    exact ⟨id, hheld, (sight_true_eq_iff hid hplain).mpr rfl⟩

end Sweeping

/-- **The labels of a scan.**  Let the changer be at rest with nothing mounted, let the labels that
the scan reads name different samples, and let every slot with a label be reported as occupied.
Then a slot ends with its label exactly if it held it before, or if every other slot that held it
before comes earlier and ends with a label of its own.  So all labels are stored exactly if no label
was stored before in a later slot, or in an earlier slot at which none is read now. -/
theorem decoded_stored_iff (c : Changer) (answer : Order → Answer) (labels : List (Option String))
    (flags : List Bool) (hrest : c.state.atRest = true) (hsize : 0 < c.magazine.size)
    (hmounted : c.mounted = none)
    (haccepts : answer (.run Program.scan.fileName Event.scanSamples.id) = .ok ())
    (hlabels : labels.length = c.magazine.size) (hflags : flags.length = c.magazine.size)
    (hnames : Naming labels)
    (hpresent : ∀ (slot : Nat) (id : String),
      labels[slot]? = some (some id) → flags[slot]? = some true) :
    let after :=
      ((c.step (.command .scan answer)).run (sweep labels flags)).step (.message .ok none)
    (∀ (slot : Nat) (id : String), labels[slot]? = some (some id) →
        (after.magazine.slots[slot]? = some id ↔
          c.magazine.slots[slot]? = some id ∨
            ∀ other, other ≠ slot → c.magazine.slots[other]? = some id →
              other < slot ∧ ∃ new, labels[other]? = some (some new) ∧
                after.magazine.slots[other]? = some new)) ∧
      ((∀ (slot : Nat) (id : String), labels[slot]? = some (some id) →
          after.magazine.slots[slot]? = some id) ↔
        ∀ (slot : Nat) (id : String), labels[slot]? = some (some id) →
          c.magazine.slots[slot]? = some id ∨
            ∀ other, other ≠ slot → c.magazine.slots[other]? = some id →
              other < slot ∧ ∃ new, labels[other]? = some (some new)) := by
  intro after
  obtain ⟨hmoving, hstart⟩ := Sweeping.started hrest
  obtain ⟨-, hhome, hswept⟩ := hstart.run_sweep hsize hlabels hflags hmoving
  have hmagazine : after.magazine = ((c.started .scan).run (sweep labels flags)).magazine := by
    show (((c.step (.command .scan answer)).run (sweep labels flags)).hear .ok none).magazine = _
    rw [Changer.step_scan hrest haccepts, hswept.hear_ok hrest hhome none]
    rfl
  have hstored (slot : Nat) (id : String) (hlabel : labels[slot]? = some (some id)) :
      after.magazine.slots[slot]? = some id ↔
        (c.magazine.relabelFrom 0 labels).slots[slot]? = some id := by
    have hread : some id ∈ labels := List.mem_of_getElem? hlabel
    rw [hmagazine]
    exact hstart.run_sweep_eq_some_iff hmounted hsize hlabels hmoving (hnames.ne_empty id hread)
      (ne_placeholder_of_head (hnames.plain id hread) slot) (hpresent slot id hlabel)
  have heach (slot : Nat) (id : String) (hlabel : labels[slot]? = some (some id)) :
      after.magazine.slots[slot]? = some id ↔
        c.magazine.slots[slot]? = some id ∨
          ∀ other, other ≠ slot → c.magazine.slots[other]? = some id →
            other < slot ∧ ∃ new, labels[other]? = some (some new) ∧
              after.magazine.slots[other]? = some new := by
    have hlt : slot < c.magazine.size := hlabels ▸ (List.getElem?_eq_some_iff.mp hlabel).1
    rw [hstored slot id hlabel, Magazine.getElem?_relabelFrom_eq_some_iff hlt
      (hnames.ne_empty id (List.mem_of_getElem? hlabel)) hlabels hlabel
      fun other hother => hnames.distinct other slot id hother hlabel]
    refine or_congr_right (forall_congr' fun other => forall_congr' fun _ => forall_congr' fun _ =>
      and_congr_right fun _ => exists_congr fun new => and_congr_right fun hnew => ?_)
    exact (hstored other new hnew).symm
  refine ⟨heach, ⟨?_, ?_⟩⟩
  · intro hall slot id hlabel
    refine ((heach slot id hlabel).mp (hall slot id hlabel)).imp_right ?_
    intro hmoved other hne hheld
    obtain ⟨hearly, new, hnew, -⟩ := hmoved other hne hheld
    exact ⟨hearly, new, hnew⟩
  · -- from the first slot on, every slot frees the label that it held for the later ones
    intro hmoved slot
    induction slot using Nat.strongRecOn with
    | ind slot ih =>
      intro id hlabel
      refine (heach slot id hlabel).mpr ((hmoved slot id hlabel).imp_right ?_)
      intro hfreed other hne hheld
      obtain ⟨hearly, new, hnew⟩ := hfreed other hne hheld
      exact ⟨hearly, new, hnew, ih other hearly new hnew⟩

/-- A complete scan of two slots: at the first one a sample is read, and the second one is as
`label` says. -/
def scanTwo (first : String) (label : Option String) : List Move :=
  .command .scan willing ::
    (sweep [some first, label] [true, label.isSome] ++ [.message .ok none])

/-- Two labels that differ and are no placeholders. -/
theorem naming_two {first second : String} (hne : first ≠ second)
    (hempty : first ≠ "" ∧ second ≠ "")
    (hplain : first.toList.head? ≠ some '@' ∧ second.toList.head? ≠ some '@') :
    Naming [some first, some second] where
  distinct i j id hi hj := by
    match i, j with
    | 0, 0 | 1, 1 => rfl
    | 0, 1 => cases hi; cases hj; exact absurd rfl hne
    | 1, 0 => cases hi; cases hj; exact absurd rfl hne
    | _ + 2, _ => cases hi
    | _, _ + 2 => cases hj
  ne_empty id hid := by
    simp only [List.mem_cons, Option.some.injEq, List.not_mem_nil, or_false] at hid
    rcases hid with rfl | rfl
    · exact hempty.1
    · exact hempty.2
  plain id hid := by
    simp only [List.mem_cons, Option.some.injEq, List.not_mem_nil, or_false] at hid
    rcases hid with rfl | rfl
    · exact hplain.1
    · exact hplain.2

/-- The sample of the first slot has moved up, and a new one is in its place. -/
theorem decoded_stored_iff_moved :
    let c := (Changer.ofSize 2).run (scanTwo "A" none)
    let labels := [some "B", some "A"]
    let after :=
      ((c.step (.command .scan willing)).run (sweep labels [true, true])).step (.message .ok none)
    c.state.atRest = true ∧ c.mounted = none ∧ c.magazine.slots = ["A", ""] ∧ Naming labels ∧
      ∀ (slot : Nat) (id : String), labels[slot]? = some (some id) →
        after.magazine.slots[slot]? = some id := by
  intro c labels after
  have hrest : c.state.atRest = true := by decide +kernel
  have hmounted : c.mounted = none := by decide +kernel
  have hslots : c.magazine.slots = ["A", ""] := by decide +kernel
  have hsize : c.magazine.size = 2 := congrArg List.length hslots
  have hnames : Naming labels := naming_two (by decide) (by decide) (by decide)
  have hpresent (slot : Nat) (id : String) (hlabel : labels[slot]? = some (some id)) :
      [true, true][slot]? = some true := by
    match slot with
    | 0 | 1 => rfl
    | _ + 2 => cases hlabel
  refine ⟨hrest, hmounted, hslots, hnames, ?_⟩
  refine (decoded_stored_iff c willing labels [true, true] hrest (hsize ▸ Nat.two_pos) hmounted rfl
    hsize.symm hsize.symm hnames hpresent).2.mpr ?_
  -- only the first slot held a label before, and it gets another one
  intro slot id hlabel
  right
  intro other hne hheld
  rw [hslots] at hheld
  match slot, other with
  | 0, 0 | 1, 1 => exact absurd rfl hne
  | 0, 1 => cases hlabel; exact absurd hheld (by decide)
  | 1, 0 => exact ⟨Nat.one_pos, "B", rfl⟩
  | _ + 2, _ => cases hlabel
  | _, _ + 2 => cases hheld

/-- Two samples were exchanged, and both labels are refused. -/
theorem exchanged_samples_keep_names :
    let c := (Changer.ofSize 2).run (scanTwo "A" (some "B"))
    let after := c.run (scanTwo "B" (some "A"))
    c.state = .home ∧ c.mounted = none ∧ Naming [some "B", some "A"] ∧
      after.state = .home ∧ after.magazine.slots = ["A", "B"] := by
  have hnames : Naming [some "B", some "A"] := naming_two (by decide) (by decide) (by decide)
  exact ⟨by decide +kernel, by decide +kernel, hnames, by decide +kernel, by decide +kernel⟩

end Autosampler

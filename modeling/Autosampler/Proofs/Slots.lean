import Autosampler.Proofs.Numerals

/-!
# Slots of the magazine

Every change to the magazine puts a text into one slot, or it fails.  A sample keeps its slot as
long as the changes go to other slots and do not put its name there.

* `Magazine.slotOf?_eq_some_iff`, `Magazine.slotOf?_eq_none_iff` — the first slot of a sample;
* `Magazine.insert_eq_ok`, `Magazine.update_eq_ok`, `Magazine.remove_eq_ok` — what a change did;
* `sight`, `Magazine.setPresence_fst` — a report on a slot in closed form;
* `Magazine.Secures` — a sample is found in its slot, and no report can make another slot its own;
* `Magazine.Secures.put` and its kin — changes that keep this.
-/

namespace Autosampler

namespace Magazine

variable {m m' : Magazine} {slot other : Nat} {id new held : String}

/-! ### Views -/

theorem slotOf?_eq_some_iff :
    m.slotOf? id = some slot ↔
      id ≠ "" ∧ m.slots[slot]? = some id ∧ ∀ j < slot, m.slots[j]? ≠ some id := by
  unfold slotOf?
  by_cases hid : id = ""
  · simp [hid]
  rw [if_neg hid, List.idxOf?_eq_some_iff]
  constructor
  · rintro ⟨hlt, hheld, hbefore⟩
    refine ⟨hid, by rw [List.getElem?_eq_getElem hlt, hheld], ?_⟩
    intro j hj heq
    obtain ⟨hjlt, hjheld⟩ := List.getElem?_eq_some_iff.mp heq
    exact hbefore j hj hjheld
  · rintro ⟨-, hheld, hbefore⟩
    obtain ⟨hlt, hget⟩ := List.getElem?_eq_some_iff.mp hheld
    refine ⟨hlt, hget, ?_⟩
    intro j hj heq
    exact hbefore j hj (List.getElem?_eq_some_iff.mpr ⟨Nat.lt_trans hj hlt, heq⟩)

theorem slotOf?_eq_none_iff :
    m.slotOf? id = none ↔ id = "" ∨ ∀ slot : Nat, m.slots[slot]? ≠ some id := by
  unfold slotOf?
  by_cases hid : id = ""
  · simp [hid]
  rw [if_neg hid, List.idxOf?_eq_none_iff, List.mem_iff_getElem?]
  constructor
  · intro h
    exact Or.inr fun slot hslot => h ⟨slot, hslot⟩
  · rintro (h | h)
    · exact absurd h hid
    · rintro ⟨slot, hslot⟩
      exact h slot hslot

theorem sampleAt_eq_some :
    m.sampleAt slot = .ok (some id) ↔ m.slots[slot]? = some id ∧ id ≠ "" := by
  unfold sampleAt
  cases m.slots[slot]? with
  | none => simp
  | some held =>
    by_cases hempty : held = ""
    · simp only [if_pos hempty, Except.ok.injEq, Option.some.injEq, reduceCtorEq, false_iff]
      rintro ⟨rfl, hne⟩
      exact hne hempty
    · simp only [if_neg hempty, Except.ok.injEq, Option.some.injEq]
      constructor
      · rintro rfl
        exact ⟨rfl, hempty⟩
      · exact And.left

theorem lt_size_of_held (h : m.slots[slot]? = some held) : slot < m.size :=
  (List.getElem?_eq_some_iff.mp h).1

/-! ### Changes -/

theorem getElem?_put (m : Magazine) (slot : Nat) (id : String) (j : Nat) :
    (m.put slot id).slots[j]? = if slot = j ∧ slot < m.size then some id else m.slots[j]? := by
  show (m.slots.set slot id)[j]? = _
  rw [List.getElem?_set]
  by_cases hslot : slot = j
  · subst hslot
    by_cases hlt : slot < m.size
    · have hlt' : slot < m.slots.length := hlt
      simp [hlt, hlt']
    · have hlt' : ¬slot < m.slots.length := hlt
      simp [hlt, hlt']
  · simp [hslot]

theorem getElem?_put_self (h : slot < m.size) : (m.put slot id).slots[slot]? = some id := by
  rw [getElem?_put, if_pos ⟨rfl, h⟩]

theorem getElem?_put_of_ne (h : slot ≠ other) :
    (m.put slot id).slots[other]? = m.slots[other]? := by
  rw [getElem?_put, if_neg fun hboth => h hboth.1]

/-- A text that goes to another slot after the first one with a sample. -/
theorem slotOf?_put_of_lt (h : m.slotOf? id = some slot) (hlt : slot < other) :
    (m.put other new).slotOf? id = some slot := by
  obtain ⟨hid, hheld, hbefore⟩ := slotOf?_eq_some_iff.mp h
  refine slotOf?_eq_some_iff.mpr ⟨hid, ?_, ?_⟩
  · rw [getElem?_put_of_ne (Nat.ne_of_gt hlt)]
    exact hheld
  · intro j hj
    rw [getElem?_put_of_ne (by omega)]
    exact hbefore j hj

/-- A new name is found where it was put. -/
theorem slotOf?_put_of_new (hlt : slot < m.size) (hnew : m.slotOf? id = none) (hid : id ≠ "") :
    (m.put slot id).slotOf? id = some slot := by
  refine slotOf?_eq_some_iff.mpr ⟨hid, getElem?_put_self hlt, ?_⟩
  intro j hj
  rw [getElem?_put_of_ne (Nat.ne_of_gt hj)]
  exact (slotOf?_eq_none_iff.mp hnew).resolve_left hid j

@[simp] theorem size_put (m : Magazine) (slot : Nat) (id : String) :
    (m.put slot id).size = m.size := List.length_set

/-- A sample is stored in an empty slot, under a name that no slot has yet. -/
theorem insert_eq_ok (h : m.insert slot id = .ok m') :
    m.slots[slot]? = some "" ∧ m.slotOf? id = none ∧ m' = m.put slot id := by
  unfold insert at h
  split at h
  · cases h
  split at h
  · cases h
  rename_i held hheld
  split at h
  · cases h
  rename_i hempty
  split at h
  · cases h
  rename_i hnew
  cases h
  exact ⟨by rw [hheld, Decidable.not_not.mp hempty], hnew, rfl⟩

/-- A name is noted at a slot that had it before, or no slot had it. -/
theorem update_eq_ok (h : m.update slot id = .ok m') :
    (m.slotOf? id = some slot ∨ m.slotOf? id = none) ∧ m' = m.put slot id := by
  unfold update at h
  split at h
  · cases h
  split at h
  · cases h
  split at h
  · rename_i other hother
    split at h
    · rename_i hsame
      cases h
      exact ⟨Or.inl (by rw [hother, hsame]), rfl⟩
    · cases h
  · rename_i hnew
    cases h
    exact ⟨Or.inr hnew, rfl⟩

theorem update_of_new (hheld : m.slots[slot]? = some held) (hnew : m.slotOf? id = none)
    (hid : id ≠ "") : m.update slot id = .ok (m.put slot id) := by
  simp only [update, if_neg hid, hheld, hnew]

theorem remove_eq_ok (h : m.remove id = .ok (m', slot)) :
    m.slotOf? id = some slot ∧ m' = m.put slot "" := by
  unfold remove at h
  split at h
  · cases h
  · rename_i hslot
    cases h
    exact ⟨hslot, rfl⟩

end Magazine

/-- What is noted for a slot after a report on it. -/
def sight (slot : Nat) (held : String) (present : Bool) : String :=
  if present then if held = "" then placeholder slot else held else ""

theorem sight_cases (slot : Nat) (held : String) (present : Bool) :
    sight slot held present = held ∨ sight slot held present = "" ∨
      sight slot held present = placeholder slot := by
  unfold sight
  split
  · split
    · exact Or.inr (Or.inr rfl)
    · exact Or.inl rfl
  · exact Or.inr (Or.inl rfl)

namespace Magazine

variable {m m' : Magazine} {slot other : Nat} {id new held : String}

/-- There is always a name that no slot has yet. -/
theorem exists_new (m : Magazine) : ∃ id, id ≠ "" ∧ m.slotOf? id = none := by
  have hbound : ∀ names : List String, ∃ bound, ∀ name ∈ names, name.length < bound := by
    intro names
    induction names with
    | nil => exact ⟨0, by simp⟩
    | cons first rest ih =>
      obtain ⟨bound, hrest⟩ := ih
      refine ⟨bound + first.length + 1, ?_⟩
      intro name hname
      rcases List.mem_cons.mp hname with rfl | hmem
      · omega
      · have := hrest name hmem
        omega
  obtain ⟨bound, hshort⟩ := hbound m.slots
  have hlength : (String.ofList (List.replicate (bound + 1) 'x')).length = bound + 1 := by
    rw [String.length_ofList, List.length_replicate]
  refine ⟨String.ofList (List.replicate (bound + 1) 'x'), ?_, ?_⟩
  · intro hempty
    rw [hempty] at hlength
    cases hlength
  · rw [slotOf?_eq_none_iff]
    refine Or.inr fun slot hslot => ?_
    have := hshort _ (List.mem_of_getElem? hslot)
    omega

theorem put_held (h : m.slots[slot]? = some held) : m.put slot held = m := by
  obtain ⟨hlt, hget⟩ := List.getElem?_eq_some_iff.mp h
  show ({ m with slots := m.slots.set slot held } : Magazine) = m
  rw [← hget, List.set_getElem_self]

theorem setPresence_fst (h : m.slots[slot]? = some held) (present : Bool) :
    (m.setPresence slot present).map Prod.fst = .ok (m.put slot (sight slot held present)) := by
  by_cases hempty : held = ""
  · subst hempty
    cases present
    · simp [setPresence, h, sight, Except.map, put_held h]
    · simp [setPresence, h, sight, Except.map]
  · cases present
    · simp [setPresence, h, sight, Except.map, hempty]
    · simp [setPresence, h, sight, Except.map, hempty, put_held h]

/-! ### Secured samples -/

/-- The first slot with the sample is `slot`.  If the sample bears the name of a slot, that slot
holds it, so that no report makes up a second sample of this name. -/
structure Secures (m : Magazine) (slot : Nat) (id : String) : Prop where
  found : m.slotOf? id = some slot
  own : ∀ j < m.size, id = placeholder j → m.slots[j]? = some id

namespace Secures

/-- A change elsewhere that does not put the sample's name there. -/
theorem put (h : m.Secures slot id) (hother : m.slots[other]? ≠ some id) (hnew : new ≠ id) :
    (m.put other new).Secures slot id := by
  obtain ⟨hid, hheld, hbefore⟩ := slotOf?_eq_some_iff.mp h.found
  have hstays : ∀ j : Nat, m.slots[j]? = some id → (m.put other new).slots[j]? = some id := by
    intro j hj
    have hne : other ≠ j := by
      rintro rfl
      exact hother hj
    rw [getElem?_put_of_ne hne, hj]
  refine ⟨slotOf?_eq_some_iff.mpr ⟨hid, hstays slot hheld, ?_⟩, ?_⟩
  · intro j hj heq
    rw [getElem?_put] at heq
    split at heq
    · cases heq
      exact hnew rfl
    · exact hbefore j hj heq
  · intro j hj hown
    rw [size_put] at hj
    exact hstays j (h.own j hj hown)

theorem ne_empty (h : m.Secures slot id) : id ≠ "" := (slotOf?_eq_some_iff.mp h.found).1

theorem stored (h : m.Secures slot id) : m.slots[slot]? = some id :=
  (slotOf?_eq_some_iff.mp h.found).2.1

/-- A sample is stored only under a name that no slot has yet. -/
theorem insert (h : m.Secures slot id) (hi : m.insert other new = .ok m') :
    m'.Secures slot id := by
  obtain ⟨hempty, hnew, rfl⟩ := insert_eq_ok hi
  refine h.put ?_ ?_
  · rw [hempty]
    intro heq
    cases heq
    exact h.ne_empty rfl
  · rintro rfl
    rw [h.found] at hnew
    cases hnew

/-- The name noted at another slot is not the sample's. -/
theorem ne_of_update (h : m.Secures slot id) (hother : m.slots[other]? ≠ some id)
    (hu : m.update other new = .ok m') : new ≠ id := by
  obtain ⟨hwhere, -⟩ := update_eq_ok hu
  rintro rfl
  rcases hwhere with hsome | hnone
  · exact hother (slotOf?_eq_some_iff.mp hsome).2.1
  · rw [h.found] at hnone
    cases hnone

theorem remove (h : m.Secures slot id) (hne : held ≠ id)
    (hr : m.remove held = .ok (m', other)) : m'.Secures slot id := by
  obtain ⟨hfound, rfl⟩ := remove_eq_ok hr
  refine h.put ?_ h.ne_empty.symm
  rw [(slotOf?_eq_some_iff.mp hfound).2.1]
  intro heq
  cases heq
  exact hne rfl

/-- A report on another slot never gives that slot the sample's name. -/
theorem sight_ne (h : m.Secures slot id) (hheld : m.slots[other]? = some held) (hne : held ≠ id)
    (present : Bool) : sight other held present ≠ id := by
  unfold sight
  split
  · split
    · intro heq
      have hown := h.own other (lt_size_of_held hheld) heq.symm
      rw [hheld] at hown
      cases hown
      exact hne rfl
    · exact hne
  · exact h.ne_empty.symm

end Secures

end Magazine

end Autosampler

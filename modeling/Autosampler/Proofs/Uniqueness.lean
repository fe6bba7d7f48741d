import Autosampler.Proofs.Slots

/-!
# One slot for every sample

A sample that is stored twice can neither be taken out nor found again safely.  Inserting and
updating look for the name first; a presence report does not, and it makes up a name of its own.

* `Change`, `Magazine.apply`, `Magazine.applyAll` — the calls that change a magazine;
* `Magazine.Applied`, `Magazine.applied` — the six things that come of a call;
* `Change.Reaches`, `Magazine.getElem?_apply` — the slots that a call leaves alone;
* `Magazine.Distinct` — no sample is stored in two slots;
* `Magazine.Clashes`, `Magazine.distinct_apply_iff` — the one call that can break this;
* `Magazine.Tidy`, `Change.Proper` — placeholders kept to their own slots, where nothing clashes;
* `distinct_along_iff` — both of this over any sequence of calls.
-/

namespace Autosampler

/-! ### Calls -/

/-- A call that can change a magazine. -/
inductive Change where
  | insert (slot : Nat) (id : String)
  | remove (id : String)
  | update (slot : Nat) (id : String)
  | presence (slot : Nat) (present : Bool)
  | clear
  | next

namespace Magazine

/-- The changed magazine, or the old one if the change was not possible. -/
def orKeep (m : Magazine) : Except MagazineError Magazine → Magazine
  | .ok changed => changed
  | .error _ => m

/-- The magazine after a call. -/
def apply (m : Magazine) : Change → Magazine
  | .insert slot id => m.orKeep (m.insert slot id)
  | .remove id => m.without id
  | .update slot id => m.orKeep (m.update slot id)
  | .presence slot present => m.orKeep ((m.setPresence slot present).map Prod.fst)
  | .clear => m.clear
  | .next => m.next.1

/-- The magazine after a list of calls. -/
def applyAll (m : Magazine) (changes : List Change) : Magazine := changes.foldl apply m

@[simp] theorem applyAll_nil (m : Magazine) : m.applyAll [] = m := rfl

@[simp] theorem applyAll_cons (m : Magazine) (change : Change) (changes : List Change) :
    m.applyAll (change :: changes) = (m.apply change).applyAll changes := rfl

variable {m : Magazine} {slot other : Nat} {id held : String} {change : Change}

theorem apply_presence (h : m.slots[slot]? = some held) (present : Bool) :
    m.apply (.presence slot present) = m.put slot (sight slot held present) := by
  rw [apply, setPresence_fst h]
  rfl

theorem apply_insert (hheld : m.slots[slot]? = some "") (hnew : m.slotOf? id = none)
    (hid : id ≠ "") : m.apply (.insert slot id) = m.put slot id := by
  simp only [apply, insert, if_neg hid, hheld, hnew]
  rfl

theorem apply_insert_of_occupied (hheld : m.slots[slot]? = some held) (hne : held ≠ "") :
    m.apply (.insert slot id) = m := by
  simp only [apply, insert, hheld, if_pos hne]
  split <;> rfl

theorem apply_remove (h : m.slotOf? id = some slot) : m.apply (.remove id) = m.put slot "" := by
  simp only [apply, without, remove, h]

/-- What a call does: nothing to the slots, or one text goes into one slot, or all are emptied. -/
inductive Applied (m : Magazine) : Change → Magazine → Prop
  | same {change : Change} {after : Magazine} (slots : after.slots = m.slots) :
      Applied m change after
  | inserted {slot : Nat} {id : String} (new : m.slotOf? id = none) :
      Applied m (.insert slot id) (m.put slot id)
  | removed {slot : Nat} {id : String} (found : m.slotOf? id = some slot) :
      Applied m (.remove id) (m.put slot "")
  | updated {slot : Nat} {id : String}
      (place : m.slotOf? id = some slot ∨ m.slotOf? id = none) :
      Applied m (.update slot id) (m.put slot id)
  | reported {slot : Nat} {held : String} {present : Bool} (there : m.slots[slot]? = some held) :
      Applied m (.presence slot present) (m.put slot (sight slot held present))
  | cleared : Applied m .clear (ofSize m.size)

theorem applied (m : Magazine) (change : Change) : Applied m change (m.apply change) := by
  cases change with
  | insert slot id =>
    cases hi : m.insert slot id with
    | error e => simpa only [apply, hi, orKeep] using .same rfl
    | ok changed =>
      obtain ⟨-, hnew, rfl⟩ := insert_eq_ok hi
      simpa only [apply, hi, orKeep] using .inserted hnew
  | remove id =>
    cases hr : m.slotOf? id with
    | none => simpa only [apply, without, remove, hr] using .same rfl
    | some slot =>
      rw [apply_remove hr]
      exact .removed hr
  | update slot id =>
    cases hu : m.update slot id with
    | error e => simpa only [apply, hu, orKeep] using .same rfl
    | ok changed =>
      obtain ⟨hplace, rfl⟩ := update_eq_ok hu
      simpa only [apply, hu, orKeep] using .updated hplace
  | presence slot present =>
    cases hheld : m.slots[slot]? with
    | none => simpa only [apply, setPresence, hheld, Except.map, orKeep] using .same rfl
    | some held =>
      rw [apply_presence hheld]
      exact .reported hheld
  | clear => exact .cleared
  | next =>
    refine .same ?_
    simp only [apply, next]
    split <;> rfl

end Magazine

/-- The slots that a call can change. -/
def Change.Reaches (m : Magazine) (slot : Nat) : Change → Prop
  | .insert target _ | .update target _ | .presence target _ => slot = target
  | .remove id => m.slotOf? id = some slot
  | .clear => True
  | .next => False

namespace Magazine

variable {m : Magazine} {slot other : Nat} {id held : String} {change : Change}

/-- A call changes no slot out of its reach. -/
theorem getElem?_apply (h : ¬change.Reaches m other) :
    (m.apply change).slots[other]? = m.slots[other]? := by
  have hupshot := m.applied change
  generalize m.apply change = after at hupshot
  cases hupshot with
  | same slots => rw [slots]
  | inserted _ => exact getElem?_put_of_ne fun heq => h heq.symm
  | removed found =>
    refine getElem?_put_of_ne ?_
    rintro rfl
    exact h found
  | updated _ => exact getElem?_put_of_ne fun heq => h heq.symm
  | reported _ => exact getElem?_put_of_ne fun heq => h heq.symm
  | cleared => exact absurd trivial h

theorem size_apply (m : Magazine) (change : Change) : (m.apply change).size = m.size := by
  have hupshot := m.applied change
  generalize m.apply change = after at hupshot
  cases hupshot with
  | same slots => rw [size, slots, size]
  | cleared => exact List.length_replicate
  | _ => exact size_put m _ _

theorem size_applyAll (m : Magazine) (changes : List Change) :
    (m.applyAll changes).size = m.size := by
  induction changes generalizing m with
  | nil => rfl
  | cons change changes ih => rw [applyAll_cons, ih, size_apply]

/-! ### Samples stored once -/

/-- No sample is stored in two slots. -/
def Distinct (m : Magazine) : Prop :=
  ∀ i j : Nat, ∀ id, m.slots[i]? = some id → m.slots[j]? = some id → id ≠ "" → i = j

/-- The call is a report of a sample in an empty slot, and a sample elsewhere bears the name that
is made up for it. -/
def Clashes (m : Magazine) : Change → Prop
  | .presence slot true =>
    m.slots[slot]? = some "" ∧ ∃ other : Nat, m.slots[other]? = some (placeholder slot)
  | _ => False

theorem distinct_ofSize (n : Nat) : (ofSize n).Distinct := by
  intro i j id hi _ hid
  have hempty : id = "" := List.eq_of_mem_replicate (List.mem_of_getElem? hi)
  exact absurd hempty hid

namespace Distinct

theorem of_nodup (h : m.slots.Nodup) : m.Distinct := fun _ _ _ hheld hheld' _ =>
  (List.getElem?_inj (List.getElem?_eq_some_iff.mp hheld).1 h).mp (hheld.trans hheld'.symm)

theorem of_slots {m' : Magazine} (h : m.Distinct) (hslots : m'.slots = m.slots) : m'.Distinct := by
  unfold Distinct
  rw [hslots]
  exact h

theorem slotOf? (h : m.Distinct) (hheld : m.slots[slot]? = some id) (hid : id ≠ "") :
    m.slotOf? id = some slot := by
  refine slotOf?_eq_some_iff.mpr ⟨hid, hheld, ?_⟩
  intro j hj heq
  have hsame := h j slot id heq hheld hid
  omega

theorem put (h : m.Distinct) (hnew : id = "" ∨ ∀ j : Nat, m.slots[j]? = some id → j = slot) :
    (m.put slot id).Distinct := by
  -- a slot with the new name is the slot of the change, or it had the name before
  have hwhere (hid : id ≠ "") (j : Nat) (hj : (m.put slot id).slots[j]? = some id) : j = slot := by
    rw [getElem?_put] at hj
    split at hj
    · rename_i hsame
      exact hsame.1.symm
    · exact hnew.resolve_left hid j hj
  intro i j sample hi hj hsample
  by_cases hid : sample = id
  · subst hid
    rw [hwhere hsample i hi, hwhere hsample j hj]
  · rw [getElem?_put] at hi hj
    split at hi
    · exact absurd (Option.some.inj hi).symm hid
    split at hj
    · exact absurd (Option.some.inj hj).symm hid
    exact h i j sample hi hj hsample

end Distinct

/-- A name that may be noted at a slot is in no other slot. -/
theorem Distinct.eq_slot (h : m.Distinct)
    (hplace : m.slotOf? id = some slot ∨ m.slotOf? id = none) :
    id = "" ∨ ∀ j : Nat, m.slots[j]? = some id → j = slot := by
  by_cases hid : id = ""
  · exact Or.inl hid
  refine Or.inr fun j hj => ?_
  have hfound := h.slotOf? hj hid
  rcases hplace with hsome | hnone
  · rw [hfound] at hsome
    exact Option.some.inj hsome
  · rw [hfound] at hnone
    cases hnone

/-- A call that does not clash stores no sample twice. -/
theorem distinct_apply (h : m.Distinct) (hc : ¬m.Clashes change) : (m.apply change).Distinct := by
  have hupshot := m.applied change
  generalize m.apply change = after at hupshot
  cases hupshot with
  | same slots => exact h.of_slots slots
  | inserted new => exact h.put (h.eq_slot (Or.inr new))
  | removed _ => exact h.put (Or.inl rfl)
  | updated place => exact h.put (h.eq_slot place)
  | @reported slot held present there =>
    cases present with
    | false => exact h.put (Or.inl rfl)
    | true =>
      by_cases hempty : held = ""
      · -- the made-up name is nowhere else, or the call would clash
        subst hempty
        refine h.put (Or.inr ?_)
        intro j hj
        exact absurd ⟨there, j, hj⟩ hc
      · simp only [sight, if_true, if_neg hempty]
        rwa [put_held there]
  | cleared => exact distinct_ofSize m.size

/-- A call keeps the samples in one slot each exactly if it does not clash. -/
theorem distinct_apply_iff (h : m.Distinct) (change : Change) :
    (m.apply change).Distinct ↔ ¬m.Clashes change := by
  refine ⟨?_, distinct_apply h⟩
  intro hafter hclash
  cases change with
  | presence slot present =>
    cases present with
    | false => exact hclash
    | true =>
      obtain ⟨hempty, other, hother⟩ := hclash
      have hne : slot ≠ other := by
        rintro rfl
        rw [hempty] at hother
        exact placeholder_ne_empty slot (Option.some.inj hother).symm
      rw [apply_presence hempty] at hafter
      have hmade : (m.put slot (placeholder slot)).slots[slot]? = some (placeholder slot) :=
        getElem?_put_self (lt_size_of_held hempty)
      have hthere : (m.put slot (placeholder slot)).slots[other]? = some (placeholder slot) := by
        rw [getElem?_put_of_ne hne, hother]
      exact hne (hafter slot other _ hmade hthere (placeholder_ne_empty slot))
  | _ => exact hclash

/-- Along a list of calls, the samples stay in one slot each exactly if none of the calls
clashes. -/
theorem distinct_applyAll_iff (h : m.Distinct) (changes : List Change) :
    (∀ before, before <+: changes → (m.applyAll before).Distinct) ↔
      ∀ before change, before ++ [change] <+: changes → ¬(m.applyAll before).Clashes change := by
  induction changes generalizing m with
  | nil =>
    constructor
    · intro _ before change hprefix
      have hnil := List.prefix_nil.mp hprefix
      exact absurd hnil (List.append_ne_nil_of_right_ne_nil _ (List.cons_ne_nil _ _))
    · intro _ before hprefix
      rw [List.prefix_nil.mp hprefix]
      exact h
  | cons first rest ih =>
    constructor
    · intro hall
      have hfirst : (m.apply first).Distinct :=
        hall [first] ⟨rest, rfl⟩
      have hrest := (ih hfirst).mp fun before hprefix =>
        hall (first :: before) (List.cons_prefix_cons.mpr ⟨rfl, hprefix⟩)
      intro before change hprefix
      cases before with
      | nil =>
        obtain ⟨rfl, -⟩ := List.cons_prefix_cons.mp hprefix
        exact (distinct_apply_iff h change).mp hfirst
      | cons head before =>
        obtain ⟨rfl, hprefix'⟩ := List.cons_prefix_cons.mp hprefix
        exact hrest before change hprefix'
    · intro hall
      have hfirst : (m.apply first).Distinct :=
        distinct_apply h (hall [] first ⟨rest, rfl⟩)
      have hrest := (ih hfirst).mpr fun before change hprefix =>
        hall (first :: before) change (List.cons_prefix_cons.mpr ⟨rfl, hprefix⟩)
      intro before hprefix
      cases before with
      | nil => exact h
      | cons head before =>
        obtain ⟨rfl, hprefix'⟩ := List.cons_prefix_cons.mp hprefix
        exact hrest before hprefix'

end Magazine

/-! ### Placeholders in their own slots -/

/-- The call gives no slot the placeholder of another one. -/
def Change.Proper : Change → Prop
  | .insert slot id | .update slot id => ∀ other, id = placeholder other → slot = other
  | _ => True

namespace Magazine

variable {m : Magazine} {slot : Nat} {id : String} {change : Change}

/-- No sample is stored twice, and none bears the placeholder of a slot that it is not in. -/
structure Tidy (m : Magazine) : Prop where
  distinct : m.Distinct
  own : ∀ slot other : Nat, m.slots[slot]? = some (placeholder other) → slot = other

namespace Tidy

theorem of_slots {m' : Magazine} (h : m.Tidy) (hslots : m'.slots = m.slots) : m'.Tidy :=
  ⟨h.distinct.of_slots hslots, by rw [hslots]; exact h.own⟩

theorem ofSize (n : Nat) : (ofSize n).Tidy := by
  refine ⟨distinct_ofSize n, ?_⟩
  intro slot other hheld
  have hempty := List.eq_of_mem_replicate (List.mem_of_getElem? hheld)
  exact absurd hempty (placeholder_ne_empty other)

/-- Where placeholders are in their own slots, the made-up name of an empty slot is free. -/
theorem not_clashes (h : m.Tidy) (change : Change) : ¬m.Clashes change := by
  cases change with
  | presence slot present =>
    cases present with
    | false => exact id
    | true =>
      rintro ⟨hempty, other, hother⟩
      rw [h.own other slot hother, hempty] at hother
      exact placeholder_ne_empty slot (Option.some.inj hother).symm
  | _ => exact id

theorem own_put (h : m.Tidy) (hown : ∀ other, id = placeholder other → slot = other)
    (i other : Nat) (hi : (m.put slot id).slots[i]? = some (placeholder other)) : i = other := by
  rw [getElem?_put] at hi
  split at hi
  · rename_i hsame
    rw [← hsame.1]
    exact hown other (Option.some.inj hi)
  · exact h.own i other hi

theorem own_empty (slot other : Nat) (h : "" = placeholder other) : slot = other :=
  absurd h.symm (placeholder_ne_empty other)

theorem apply (h : m.Tidy) (hp : change.Proper) : (m.apply change).Tidy := by
  have hdistinct := distinct_apply h.distinct (h.not_clashes change)
  have hupshot := m.applied change
  generalize m.apply change = after at hupshot hdistinct
  refine ⟨hdistinct, ?_⟩
  cases hupshot with
  | same slots => rw [slots]; exact h.own
  | inserted _ => exact h.own_put hp
  | removed _ => exact h.own_put (own_empty _)
  | updated _ => exact h.own_put hp
  | @reported slot held present there =>
    refine h.own_put ?_
    intro other hname
    rcases sight_cases slot held present with heq | heq | heq <;> rw [heq] at hname
    · exact h.own slot other (by rw [there, hname])
    · exact own_empty slot other hname
    · exact placeholder_injective hname
  | cleared => exact (ofSize m.size).own

theorem applyAll (h : m.Tidy) {changes : List Change} (hp : ∀ change ∈ changes, change.Proper) :
    (m.applyAll changes).Tidy := by
  induction changes generalizing m with
  | nil => exact h
  | cons change changes ih =>
    have hfirst := h.apply (hp change List.mem_cons_self)
    exact ih hfirst fun later hlater => hp later (List.mem_cons_of_mem _ hlater)

end Tidy

end Magazine

/-! ### Any sequence of calls -/

/-- **Uniqueness.**  Whatever is called on an empty magazine, in whatever order, no sample is ever
stored in two slots exactly if no empty slot is reported as occupied while its placeholder is
stored elsewhere.  This never happens if only placeholders of the slot itself are inserted or
noted. -/
theorem distinct_along_iff (n : Nat) (changes : List Change) :
    ((∀ before, before <+: changes → ((Magazine.ofSize n).applyAll before).Distinct) ↔
        ∀ before change, before ++ [change] <+: changes →
          ¬((Magazine.ofSize n).applyAll before).Clashes change) ∧
      ((∀ change ∈ changes, change.Proper) → ((Magazine.ofSize n).applyAll changes).Distinct) := by
  refine ⟨Magazine.distinct_applyAll_iff (Magazine.distinct_ofSize n) changes, ?_⟩
  intro hproper
  exact ((Magazine.Tidy.ofSize n).applyAll hproper).distinct

/-- A sample is identified, and another one is stored under the placeholder of its slot. -/
def identified : List Change := [.presence 1 true, .update 1 "A", .insert 0 "@0"]

theorem distinct_along_iff_identified :
    (∀ change ∈ identified, change.Proper) ∧
      ((Magazine.ofSize 2).applyAll identified).slots = ["@0", "A"] ∧
      ((Magazine.ofSize 2).applyAll identified).Distinct := by
  have hproper : ∀ change ∈ identified, change.Proper := by
    intro change hchange
    simp only [identified, List.mem_cons, List.not_mem_nil, or_false] at hchange
    rcases hchange with rfl | rfl | rfl
    · trivial
    · intro other hname
      exact absurd hname (ne_placeholder_of_head (by decide) other)
    · intro other hname
      have hself : placeholder 0 = "@0" := by decide +kernel
      exact placeholder_injective (hself.trans hname)
  exact ⟨hproper, by decide +kernel, (distinct_along_iff 2 identified).2 hproper⟩

/-- The placeholder of the first slot is stored in the second one, and then the first one is seen
occupied. -/
theorem reported_placeholder_stored_twice :
    let m := (Magazine.ofSize 2).applyAll [.insert 1 "@0", .presence 0 true]
    m.slots = ["@0", "@0"] ∧ ¬m.Distinct := by
  have hslots : ((Magazine.ofSize 2).applyAll [.insert 1 "@0", .presence 0 true]).slots
      = ["@0", "@0"] := by
    decide +kernel
  refine ⟨hslots, ?_⟩
  intro hdistinct
  have hsame := hdistinct 0 1 "@0" (by rw [hslots]; rfl) (by rw [hslots]; rfl) (by decide)
  cases hsame

end Autosampler

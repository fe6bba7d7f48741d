import Autosampler.Proofs.Round

/-!
# Every slot has its turn

Calls for the next sample go round the magazine, while other calls bring samples in and take them
out.  A slot that stays occupied is never passed over: every answer that names another slot brings
the cursor closer to it, whatever happens to the other slots in between.

* `Magazine.answers`, `Magazine.served` — the answers to the calls for the next sample, and the
  slots that had their turn;
* `Magazine.Occupied`, `Magazine.Poised` — a slot with a sample, and a cursor at a slot;
* `Magazine.mem_round` — who takes part in the round;
* `Magazine.ahead` — how many slots lie between the cursor and a slot, going round;
* `Magazine.ahead_passed`, `Magazine.next_of_occupied` — one call brings the cursor closer;
* `Magazine.served_of_waiting` — any number of calls during which a slot waits for its turn;
* `turns_are_fair` — in any sequence of calls, every slot has its turn in time.
-/

namespace Autosampler

namespace Magazine

variable {m : Magazine} {slot first place : Nat} {id : String} {change : Change}
  {changes : List Change}

/-! ### Answers -/

/-- The answers to the calls for the next sample, in order. -/
def answers (m : Magazine) : List Change → List (Option (Nat × String))
  | [] => []
  | .next :: changes => m.next.2 :: (m.apply .next).answers changes
  | change :: changes => (m.apply change).answers changes

/-- The slots that had their turn, in order. -/
def served (m : Magazine) (changes : List Change) : List Nat :=
  (m.answers changes).filterMap fun answer => answer.map Prod.fst

theorem answers_of_ne (h : change ≠ .next) :
    m.answers (change :: changes) = (m.apply change).answers changes := by
  cases change with
  | next => exact absurd rfl h
  | _ => rfl

theorem served_of_ne (h : change ≠ .next) :
    m.served (change :: changes) = (m.apply change).served changes := by
  rw [served, answers_of_ne h, served]

theorem served_of_next (h : m.next = (m.passed first, some (first, id))) :
    m.served (.next :: changes) = first :: (m.passed first).served changes := by
  rw [served, answers, List.filterMap_cons, apply, h]
  rfl

/-- A slot that had its turn was answered with a sample. -/
theorem exists_answer_of_served (h : slot ∈ m.served changes) :
    ∃ id, some (slot, id) ∈ m.answers changes := by
  obtain ⟨answer, hanswer, hslot⟩ := List.mem_filterMap.mp h
  obtain ⟨⟨slot', id⟩, rfl, rfl⟩ := Option.map_eq_some_iff.mp hslot
  exact ⟨id, hanswer⟩

/-! ### Occupied slots and the cursor -/

/-- There is a sample in the slot. -/
def Occupied (m : Magazine) (slot : Nat) : Prop := ∃ id, m.slots[slot]? = some id ∧ id ≠ ""

/-- The cursor is at a slot, or at zero if there is no slot. -/
def Poised (m : Magazine) : Prop := m.cursor < m.size ∨ m.size = 0 ∧ m.cursor = 0

theorem Occupied.lt_size (h : m.Occupied slot) : slot < m.size := by
  obtain ⟨id, hheld, -⟩ := h
  exact lt_size_of_held hheld

theorem poised_ofSize (n : Nat) : (ofSize n).Poised := by
  have hsize : (ofSize n).size = n := List.length_replicate
  have hcursor : (ofSize n).cursor = 0 := rfl
  unfold Poised
  omega

/-- The occupied slots take part in the round, each with its sample. -/
theorem mem_round : (slot, id) ∈ m.round ↔ m.slots[slot]? = some id ∧ id ≠ "" := by
  rw [round, (m.walk_perm m.cursor).mem_iff, walk, List.mem_filterMap]
  constructor
  · rintro ⟨place, -, hplaced⟩
    exact (placed?_eq_some.mp hplaced).2
  · rintro ⟨hheld, hid⟩
    have hlt : slot < m.size := lt_size_of_held hheld
    refine ⟨slot, List.mem_range'_1.mpr ⟨Nat.zero_le slot, by omega⟩, ?_⟩
    exact placed?_eq_some.mpr ⟨(Nat.mod_eq_of_lt hlt).symm, hheld, hid⟩

/-- Only a turn moves the cursor, and emptying the magazine puts it back to zero. -/
theorem apply_cursor (hnext : change ≠ .next) (hclear : change ≠ .clear) :
    (m.apply change).cursor = m.cursor := by
  cases change with
  | insert slot id =>
    cases hi : m.insert slot id with
    | error e => simp only [apply, hi, orKeep]
    | ok changed =>
      obtain ⟨-, -, rfl⟩ := insert_eq_ok hi
      simp only [apply, hi, orKeep, put]
  | remove id =>
    cases hr : m.slotOf? id with
    | none => simp only [apply, without, remove, hr]
    | some slot => rw [apply_remove hr, put]
  | update slot id =>
    cases hu : m.update slot id with
    | error e => simp only [apply, hu, orKeep]
    | ok changed =>
      obtain ⟨-, rfl⟩ := update_eq_ok hu
      simp only [apply, hu, orKeep, put]
  | presence slot present =>
    cases hheld : m.slots[slot]? with
    | none => simp only [apply, setPresence, hheld, Except.map, orKeep]
    | some held => rw [apply_presence hheld, put]
  | clear => exact absurd rfl hclear
  | next => exact absurd rfl hnext

theorem Poised.apply (h : m.Poised) (change : Change) : (m.apply change).Poised := by
  by_cases hnext : change = .next
  · subst hnext
    rcases m.next_cases with ⟨-, heq⟩ | ⟨first, id, rest, hround, heq⟩
    · rw [Magazine.apply, heq]
      exact h
    · rw [Magazine.apply, heq]
      have hfirst : (first, id) ∈ m.round := by rw [hround]; exact List.mem_cons_self
      have hlt : first < m.size := lt_size_of_held (mem_round.mp hfirst).1
      exact Or.inl (Nat.mod_lt _ (by omega))
  · by_cases hclear : change = .clear
    · subst hclear
      exact poised_ofSize m.size
    · unfold Poised
      rw [apply_cursor hnext hclear, size_apply]
      exact h

theorem Poised.applyAll (h : m.Poised) (changes : List Change) : (m.applyAll changes).Poised := by
  induction changes generalizing m with
  | nil => exact h
  | cons change changes ih => exact ih (h.apply change)

/-! ### The way from the cursor to a slot -/

/-- The number of slots from the cursor to a slot, going round. -/
def ahead (m : Magazine) (slot : Nat) : Nat :=
  if m.cursor ≤ slot then slot - m.cursor else slot + m.size - m.cursor

theorem ahead_lt (hc : m.cursor < m.size) (hslot : slot < m.size) : m.ahead slot < m.size := by
  unfold ahead
  split <;> omega

/-- Less than two rounds, counted round. -/
theorem mod_of_lt_double {number size : Nat} (h : number < 2 * size) :
    number % size = if number < size then number else number - size := by
  split
  · exact Nat.mod_eq_of_lt ‹_›
  · rw [Nat.mod_eq_sub_mod (by omega), Nat.mod_eq_of_lt (by omega)]

theorem place_ahead (hc : m.cursor < m.size) (hslot : slot < m.size) :
    (m.cursor + m.ahead slot) % m.size = slot := by
  have hlt := ahead_lt hc hslot
  rw [mod_of_lt_double (by omega)]
  unfold ahead
  split_ifs <;> omega

theorem ahead_place (hc : m.cursor < m.size) (hplace : place < m.size) :
    m.ahead ((m.cursor + place) % m.size) = place := by
  rw [mod_of_lt_double (by omega)]
  unfold ahead
  split_ifs <;> omega

/-- After a turn, the slots that were passed over are a whole round away, and the others have come
closer. -/
theorem ahead_passed (hc : m.cursor < m.size) (hfirst : first < m.size) (hslot : slot < m.size) :
    (m.passed first).ahead slot + m.ahead first + 1
      = m.ahead slot + if m.ahead slot ≤ m.ahead first then m.size else 0 := by
  have hcursor : (m.passed first).cursor
      = if first + 1 < m.size then first + 1 else first + 1 - m.size :=
    mod_of_lt_double (by omega)
  have hsize : (m.passed first).size = m.size := rfl
  unfold ahead
  rw [hcursor, hsize]
  split_ifs <;> omega

/-- A slot that is occupied is not passed over: the answer names it, or one before it. -/
theorem next_of_occupied (hc : m.cursor < m.size) (h : m.Occupied slot) :
    ∃ first id, m.next = (m.passed first, some (first, id)) ∧ first < m.size ∧
      (first = slot ∨ m.ahead first < m.ahead slot) := by
  obtain ⟨id, hheld, hid⟩ := h
  have hslot := lt_size_of_held hheld
  rcases m.next_cases with ⟨hround, -⟩ | ⟨first, name, rest, hround, heq⟩
  · have hmem : (slot, id) ∈ m.round := mem_round.mpr ⟨hheld, hid⟩
    rw [hround] at hmem
    cases hmem
  refine ⟨first, name, heq, ?_⟩
  obtain ⟨before, after, hsize, hempty, hplaced, -⟩ := walk_eq_cons hround
  obtain ⟨hfirst, -, -⟩ := placed?_eq_some.mp hplaced
  have hbefore : m.ahead first = before := by
    rw [hfirst]
    exact ahead_place hc (by omega)
  -- all places before the first sample are free, and the slot is none of them
  have hle : before ≤ m.ahead slot := by
    by_contra hlt
    have hmem : (slot, id) ∈ m.walk m.cursor before := by
      refine List.mem_filterMap.mpr ⟨m.cursor + m.ahead slot, ?_, ?_⟩
      · exact List.mem_range'_1.mpr ⟨Nat.le_add_right _ _, by omega⟩
      · exact placed?_eq_some.mpr ⟨(place_ahead hc hslot).symm, hheld, hid⟩
    rw [hempty] at hmem
    cases hmem
  refine ⟨hfirst ▸ Nat.mod_lt _ (by omega), ?_⟩
  rcases Nat.lt_or_eq_of_le hle with hlt | hsame
  · exact Or.inr (hbefore ▸ hlt)
  · refine Or.inl ?_
    rw [hfirst, hsame, place_ahead hc hslot]

/-! ### Waiting for a turn -/

/-- As long as a slot is occupied and has no turn, there are at most as many calls as slots before
it, and these have one turn each. -/
theorem served_of_waiting (hc : m.cursor < m.size)
    (hstays : ∀ part, part <+: changes → (m.applyAll part).Occupied slot)
    (hwaits : slot ∉ m.served changes) :
    (m.answers changes).length ≤ m.ahead slot ∧ (m.served changes).Nodup ∧
      ∀ other ∈ m.served changes, other < m.size ∧ m.ahead other < m.ahead slot := by
  induction changes generalizing m with
  | nil => exact ⟨Nat.zero_le _, List.nodup_nil, nofun⟩
  | cons change changes ih =>
    have hslot : slot < m.size := (hstays [] List.nil_prefix).lt_size
    have hlater : ∀ part, part <+: changes → ((m.apply change).applyAll part).Occupied slot :=
      fun part hpart => hstays (change :: part) (List.cons_prefix_cons.mpr ⟨rfl, hpart⟩)
    by_cases hnext : change = .next
    · subst hnext
      obtain ⟨first, id, heq, hfirst, hnear⟩ :=
        next_of_occupied hc (hstays [] List.nil_prefix)
      have happly : m.apply .next = m.passed first := congrArg Prod.fst heq
      rw [served_of_next heq] at hwaits ⊢
      rw [happly] at hlater
      have hnear' : m.ahead first < m.ahead slot :=
        hnear.resolve_left fun hsame => hwaits (hsame ▸ List.mem_cons_self)
      have hc' : (m.passed first).cursor < (m.passed first).size := Nat.mod_lt _ (by omega)
      obtain ⟨hcount, hnodup, hclose⟩ :=
        ih hc' hlater fun hmem => hwaits (List.mem_cons_of_mem first hmem)
      have hslot' := ahead_passed hc hfirst hslot
      rw [if_neg (by omega)] at hslot'
      refine ⟨?_, List.nodup_cons.mpr ⟨fun hmem => ?_, hnodup⟩, fun other hother => ?_⟩
      · rw [answers, List.length_cons, happly]
        omega
      · -- the slot of this turn is a whole round away
        have hself := ahead_passed hc hfirst hfirst
        rw [if_pos (Nat.le_refl _)] at hself
        have hother := (hclose first hmem).2
        have hlt := ahead_lt hc hslot
        omega
      · rcases List.mem_cons.mp hother with rfl | hmem
        · exact ⟨hfirst, hnear'⟩
        · obtain ⟨hlt, hless⟩ := hclose other hmem
          have hway := ahead_passed hc hfirst hlt
          have hbound := ahead_lt hc hslot
          refine ⟨hlt, ?_⟩
          split at hway <;> omega
    · have hclear : change ≠ .clear := by
        rintro rfl
        obtain ⟨id, hheld, hid⟩ := hlater [] List.nil_prefix
        exact hid (List.eq_of_mem_replicate (List.mem_of_getElem? hheld))
      have hcursor := apply_cursor (m := m) hnext hclear
      have hsize := m.size_apply change
      have hway (other : Nat) : (m.apply change).ahead other = m.ahead other := by
        unfold ahead
        rw [hcursor, hsize]
      rw [served_of_ne hnext] at hwaits ⊢
      rw [answers_of_ne hnext]
      have hrest := ih (by rw [hcursor, hsize]; exact hc) hlater hwaits
      simpa only [hway, hsize] using hrest

end Magazine

/-! ### Any sequence of calls -/

/-- **Fair turns.**  Take an empty magazine of `n` slots after any calls.  Its cursor is at a slot,
or at zero if there is none.  A call for the next sample answers with a sample and the slot that
holds it, and with nothing exactly if no slot is occupied.  From then on, take any further calls
during which a slot stays occupied.  Among the answers to `n` calls for the next sample is one with
this slot, and as long as it has no turn, no other slot has two. -/
theorem turns_are_fair (n : Nat) (before : List Change) :
    let m := (Magazine.ofSize n).applyAll before
    (m.cursor < n ∨ n = 0 ∧ m.cursor = 0) ∧
      (∀ slot id, m.next.2 = some (slot, id) → m.slots[slot]? = some id ∧ id ≠ "") ∧
      (m.next.2 = none ↔ ∀ slot, ¬m.Occupied slot) ∧
      ∀ slot changes, (∀ part, part <+: changes → (m.applyAll part).Occupied slot) →
        (n ≤ (m.answers changes).length → ∃ id, some (slot, id) ∈ m.answers changes) ∧
        (slot ∉ m.served changes → (m.served changes).Nodup) := by
  intro m
  have hsize : m.size = n := (Magazine.size_applyAll _ before).trans List.length_replicate
  have hpoised : m.Poised := (Magazine.poised_ofSize n).applyAll before
  refine ⟨hsize ▸ hpoised, fun slot id hnext => ?_, ?_, fun slot changes hstays => ?_⟩
  · rcases m.next_cases with ⟨-, heq⟩ | ⟨first, name, rest, hround, heq⟩
    · rw [heq] at hnext
      cases hnext
    · rw [heq] at hnext
      cases hnext
      exact Magazine.mem_round.mp (by rw [hround]; exact List.mem_cons_self)
  · rcases m.next_cases with ⟨hround, heq⟩ | ⟨first, name, rest, hround, heq⟩
    · refine iff_of_true (by rw [heq]) fun slot hoccupied => ?_
      obtain ⟨id, hheld⟩ := hoccupied
      have hmem := Magazine.mem_round.mpr hheld
      rw [hround] at hmem
      cases hmem
    · have hfirst : (first, name) ∈ m.round := by rw [hround]; exact List.mem_cons_self
      refine iff_of_false (by rw [heq]; nofun) fun hnone => ?_
      exact hnone first ⟨name, Magazine.mem_round.mp hfirst⟩
  · have hslot : slot < m.size := (hstays [] List.nil_prefix).lt_size
    have hc : m.cursor < m.size := hpoised.resolve_right (by omega)
    refine ⟨fun hcalls => ?_, fun hwaits => ?_⟩
    · by_contra hnone
      have hwaits : slot ∉ m.served changes := fun hmem =>
        hnone (Magazine.exists_answer_of_served hmem)
      have hcount := (Magazine.served_of_waiting hc hstays hwaits).1
      have hlt := Magazine.ahead_lt hc hslot
      omega
    · exact (Magazine.served_of_waiting hc hstays hwaits).2.1

/-- Two samples are stored, and the first one has had its turn. -/
def firstServed : List Change := [.insert 0 "A", .insert 1 "B", .next]

/-- Before the turn of the first sample comes again, the other one is served and taken out, a third
one comes and is served, and the second one comes back. -/
def exchanged : List Change := [.next, .remove "B", .update 2 "C", .next, .insert 1 "B"]

theorem turns_are_fair_exchanged :
    let m := (Magazine.ofSize 3).applyAll firstServed
    (∀ part, part <+: exchanged ++ [.next] → (m.applyAll part).Occupied 0) ∧
      (m.answers (exchanged ++ [.next])).length = 3 ∧
      (∃ id, some (0, id) ∈ m.answers (exchanged ++ [.next])) ∧
      0 ∉ m.served exchanged ∧ (m.served exchanged).Nodup := by
  intro m
  have hkept : ∀ part ∈ (exchanged ++ [Change.next]).inits,
      (m.applyAll part).slots[0]? = some "A" := by
    decide +kernel
  have hstays : ∀ part, part <+: exchanged ++ [.next] → (m.applyAll part).Occupied 0 :=
    fun part hpart => ⟨"A", hkept part ((List.mem_inits part _).mpr hpart), by decide⟩
  have hstays' : ∀ part, part <+: exchanged → (m.applyAll part).Occupied 0 :=
    fun part hpart => hstays part (hpart.trans (List.prefix_append _ _))
  have hlength : (m.answers (exchanged ++ [.next])).length = 3 := by decide +kernel
  have hwaits : 0 ∉ m.served exchanged := by decide +kernel
  obtain ⟨-, -, -, hfair⟩ := turns_are_fair 3 firstServed
  exact ⟨hstays, hlength, (hfair 0 _ hstays).1 (Nat.le_of_eq hlength.symm), hwaits,
    (hfair 0 exchanged hstays').2 hwaits⟩

end Autosampler

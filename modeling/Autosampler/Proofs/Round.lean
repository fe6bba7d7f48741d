import Autosampler.Proofs.Switch
import Autosampler.Proofs.Uniqueness
import Mathlib.Data.List.Rotate

/-!
# Going round the magazine

The round through the magazine is the list of its occupied slots, from the cursor on, each of them
once.  Every answer takes its first sample and moves that sample to the end.  So does every command
for the next sample, whose acknowledgements bring the sample to the measurement position: directly
from home, by a switch if another sample is there.

* `Magazine.placed?`, `Magazine.walk`, `Magazine.round` — the round, place by place;
* `Magazine.next_of_round`, `Magazine.next_cases`, `Magazine.round_passed` — an answer, and the
  round after it;
* `Magazine.round_perm_occupied`, `Magazine.Distinct.nodup_round` — the round meets every sample
  once;
* `Changer.chooseNext_of_round`, `Changer.plan_next` — the choice and the plan of the next sample;
* `Amid` — moves between which the robot sends messages that leave the slots as they are;
* `InTurn`, `InTurn.first`, `InTurn.again`, `InTurn.turns` — one command, and any number of them;
* `next_goes_round` — the samples are mounted in the order of the round, again and again.
-/

namespace Autosampler

namespace Magazine

variable {m : Magazine} {slot : Nat} {id : String} {rest : List (Nat × String)}

/-! ### The round -/

/-- The sample at a place, if there is one.  Places are counted on and on, and they go round the
slots. -/
def placed? (m : Magazine) (place : Nat) : Option (Nat × String) :=
  match m.slots[place % m.size]? with
  | some id => if id = "" then none else some (place % m.size, id)
  | none => none

/-- The samples at `left` places from `start` on. -/
def walk (m : Magazine) (start left : Nat) : List (Nat × String) :=
  (List.range' start left).filterMap m.placed?

/-- The samples in the order in which they have their turn: from the cursor on, going round. -/
def round (m : Magazine) : List (Nat × String) := m.walk m.cursor m.size

/-- The magazine after the turn of the sample in `slot`. -/
def passed (m : Magazine) (slot : Nat) : Magazine := { m with cursor := (slot + 1) % m.size }

theorem placed?_eq_some {place : Nat} :
    m.placed? place = some (slot, id) ↔
      slot = place % m.size ∧ m.slots[slot]? = some id ∧ id ≠ "" := by
  unfold placed?
  cases hheld : m.slots[place % m.size]? with
  | none =>
    simp only [reduceCtorEq, false_iff]
    rintro ⟨rfl, hslot, -⟩
    rw [hheld] at hslot
    cases hslot
  | some held =>
    by_cases hempty : held = ""
    · simp only [if_pos hempty, reduceCtorEq, false_iff]
      rintro ⟨rfl, hslot, hid⟩
      rw [hheld] at hslot
      cases hslot
      exact hid hempty
    · simp only [if_neg hempty, Option.some.injEq, Prod.mk.injEq]
      constructor
      · rintro ⟨rfl, rfl⟩
        exact ⟨rfl, hheld, hempty⟩
      · rintro ⟨rfl, hslot, -⟩
        rw [hheld] at hslot
        exact ⟨rfl, Option.some.inj hslot⟩

theorem placed?_add_size (m : Magazine) (place : Nat) :
    m.placed? (place + m.size) = m.placed? place := by
  rw [placed?, Nat.add_mod_right]
  rfl

theorem walk_succ (m : Magazine) (start left : Nat) :
    m.walk start (left + 1) = (m.placed? start).toList ++ m.walk (start + 1) left := by
  rw [walk, List.range'_succ, List.filterMap_cons]
  cases m.placed? start <;> rfl

theorem walk_add (m : Magazine) (start left more : Nat) :
    m.walk start (left + more) = m.walk start left ++ m.walk (start + left) more := by
  rw [walk, walk, walk, ← List.filterMap_append, ← List.range'_append, Nat.one_mul]

/-- Every time round, the samples are the same. -/
theorem walk_add_size (m : Magazine) (start left : Nat) :
    m.walk (start + m.size) left = m.walk start left := by
  induction left generalizing start with
  | zero => rfl
  | succ left ih =>
    have hnext : start + m.size + 1 = start + 1 + m.size := by omega
    rw [walk_succ, walk_succ, placed?_add_size, hnext, ih]

theorem walk_mod_size (m : Magazine) (start left : Nat) :
    m.walk (start % m.size) left = m.walk start left := by
  have hrounds (rounds : Nat) : m.walk (start % m.size + m.size * rounds) left
      = m.walk (start % m.size) left := by
    induction rounds with
    | zero => rfl
    | succ rounds ih => rw [Nat.mul_succ, ← Nat.add_assoc, walk_add_size, ih]
  rw [← hrounds (start / m.size), Nat.mod_add_div]

/-! ### Answers -/

/-- The search finds the first sample on its way. -/
theorem nextFrom_eq_head? (m : Magazine) (start left : Nat) :
    m.nextFrom start left = (m.walk start left).head? := by
  induction left generalizing start with
  | zero => rfl
  | succ left ih =>
    rw [walk_succ, nextFrom, placed?]
    cases m.slots[start % m.size]? with
    | none => exact ih (start + 1)
    | some id =>
      by_cases hempty : id = ""
      · simp only [if_pos hempty]
        exact ih (start + 1)
      · simp only [if_neg hempty]
        rfl

/-- The answer is the first sample of the round. -/
theorem next_of_round (h : m.round = (slot, id) :: rest) :
    m.next = (m.passed slot, some (slot, id)) := by
  have hfound : m.nextFrom m.cursor m.size = some (slot, id) := by
    rw [nextFrom_eq_head?]
    exact congrArg List.head? h
  simp only [next, hfound]
  rfl

/-- The answer is the first sample of the round, if there is one. -/
theorem next_cases (m : Magazine) :
    (m.round = [] ∧ m.next = (m, none)) ∨
      ∃ first id rest, m.round = (first, id) :: rest ∧
        m.next = (m.passed first, some (first, id)) := by
  cases hround : m.round with
  | nil =>
    have hnone : m.nextFrom m.cursor m.size = none := by
      rw [nextFrom_eq_head?]
      exact congrArg List.head? hround
    refine Or.inl ⟨rfl, ?_⟩
    simp only [next, hnone]
  | cons sample rest => exact Or.inr ⟨sample.1, sample.2, rest, rfl, next_of_round hround⟩

/-- Where a walk meets its first sample. -/
theorem walk_eq_cons {start left : Nat} {first : Nat × String}
    (h : m.walk start left = first :: rest) :
    ∃ before after, left = before + 1 + after ∧ m.walk start before = [] ∧
      m.placed? (start + before) = some first ∧ m.walk (start + before + 1) after = rest := by
  induction left generalizing start with
  | zero => cases h
  | succ left ih =>
    rw [walk_succ] at h
    cases hplaced : m.placed? start with
    | none =>
      rw [hplaced, Option.toList_none, List.nil_append] at h
      obtain ⟨before, after, hleft, hempty, hfirst, hrest⟩ := ih h
      have hplace : start + (before + 1) = start + 1 + before := by omega
      have hnothing : m.walk start (before + 1) = [] := by
        rw [walk_succ, hplaced, hempty]
        rfl
      rw [← hplace] at hfirst hrest
      exact ⟨before + 1, after, by omega, hnothing, hfirst, hrest⟩
    | some sample =>
      rw [hplaced] at h
      cases h
      exact ⟨0, left, by omega, rfl, hplaced, rfl⟩

/-- With every answer, the first sample of the round goes to its end. -/
theorem round_passed (h : m.round = (slot, id) :: rest) :
    (m.passed slot).round = m.round.rotate 1 := by
  obtain ⟨before, after, hsize, hempty, hfirst, hrest⟩ := walk_eq_cons h
  obtain ⟨hslot, -, -⟩ := placed?_eq_some.mp hfirst
  have hlast : m.walk m.cursor (before + 1) = [(slot, id)] := by
    rw [walk_add, hempty, walk_succ, hfirst]
    rfl
  calc (m.passed slot).round
      = m.walk ((slot + 1) % m.size) m.size := rfl
    _ = m.walk (m.cursor + before + 1) m.size := by
        rw [hslot, Nat.mod_add_mod, walk_mod_size]
    _ = m.walk (m.cursor + before + 1) (after + (before + 1)) := by
        congr 1
        omega
    _ = rest ++ m.walk (m.cursor + m.size) (before + 1) := by
        rw [walk_add, hrest]
        congr 2
        omega
    _ = rest ++ [(slot, id)] := by rw [walk_add_size, hlast]
    _ = m.round.rotate 1 := by rw [h, List.rotate_cons_succ, List.rotate_zero]

/-! ### Every sample once -/

theorem walk_perm (m : Magazine) (start : Nat) : (m.walk start m.size).Perm (m.walk 0 m.size) := by
  induction start with
  | zero => exact List.Perm.refl _
  | succ start ih =>
    refine List.Perm.trans ?_ ih
    cases hsize : m.size with
    | zero => exact List.Perm.refl _
    | succ left =>
      have hturn : m.walk (start + 1) (left + 1)
          = m.walk (start + 1) left ++ (m.placed? start).toList := by
        have hplace : start + 1 + left = start + m.size := by omega
        rw [walk_add, hplace, walk_add_size, walk_succ]
        exact congrArg (_ ++ ·) (List.append_nil _)
      rw [hturn, walk_succ]
      exact List.perm_append_comm

/-- The occupied slots among those numbered from `first` on. -/
theorem filter_zipIdx (slots : List String) (first : Nat) :
    ((slots.zipIdx first).map fun entry => (entry.2, entry.1)).filter (fun entry => entry.2 ≠ "")
      = (List.range' first slots.length).filterMap fun place =>
          (slots[place - first]?).bind fun id => if id = "" then none else some (place, id) := by
  induction slots generalizing first with
  | nil => rfl
  | cons held slots ih =>
    have htail : (List.range' (first + 1) slots.length).filterMap (fun place =>
          ((held :: slots)[place - first]?).bind fun id =>
            if id = "" then none else some (place, id))
        = (List.range' (first + 1) slots.length).filterMap (fun place =>
          (slots[place - (first + 1)]?).bind fun id =>
            if id = "" then none else some (place, id)) := by
      refine List.filterMap_congr fun place hplace => ?_
      have hindex : place - first = place - (first + 1) + 1 := by
        have := (List.mem_range'_1.mp hplace).1
        omega
      rw [hindex, List.getElem?_cons_succ]
    rw [List.length_cons, List.range'_succ, List.filterMap_cons, htail, ← ih (first + 1),
      List.zipIdx_cons, List.map_cons, Nat.sub_self, List.getElem?_cons_zero, Option.bind_some]
    by_cases hempty : held = ""
    · rw [if_pos hempty, List.filter_cons_of_neg (by simpa using hempty)]
    · rw [if_neg hempty, List.filter_cons_of_pos (by simpa using hempty)]

theorem walk_zero_size (m : Magazine) : m.walk 0 m.size = m.occupied := by
  rw [occupied, filter_zipIdx]
  refine List.filterMap_congr fun place hplace => ?_
  have hlt : place < m.size := by
    have := (List.mem_range'_1.mp hplace).2
    omega
  rw [placed?, Nat.mod_eq_of_lt hlt, Nat.sub_zero]
  cases m.slots[place]? <;> rfl

/-- The round meets every occupied slot once. -/
theorem round_perm_occupied (m : Magazine) : m.round.Perm m.occupied := by
  rw [← walk_zero_size]
  exact m.walk_perm m.cursor

/-- No sample has its turn twice in a round. -/
theorem Distinct.nodup_round (h : m.Distinct) : (m.round.map Prod.snd).Nodup := by
  rw [round, walk, List.map_filterMap]
  refine List.pairwise_filterMap.mpr ?_
  refine (List.pairwise_lt_range' (s := m.cursor) (n := m.size)).imp_of_mem ?_
  intro place place' hplace hplace' hlt name hname name' hname' hsame
  obtain ⟨⟨slot, id⟩, hfirst, rfl⟩ := Option.map_eq_some_iff.mp hname
  obtain ⟨⟨slot', id'⟩, hsecond, rfl⟩ := Option.map_eq_some_iff.mp hname'
  obtain ⟨rfl, hheld, hid⟩ := placed?_eq_some.mp hfirst
  obtain ⟨rfl, hheld', -⟩ := placed?_eq_some.mp hsecond
  cases hsame
  -- two places with the same slot are a whole round apart
  have hslot : place % m.size = place' % m.size := h _ _ id hheld hheld' hid
  have hbound := List.mem_range'_1.mp hplace
  have hbound' := List.mem_range'_1.mp hplace'
  have hdvd : m.size ∣ place' - place :=
    Nat.dvd_of_mod_eq_zero (Nat.sub_mod_eq_zero_of_mod_eq hslot.symm)
  have := Nat.le_of_dvd (by omega) hdvd
  omega

/-- A sample of the round has a slot. -/
theorem slotOf?_of_mem_round (h : (slot, id) ∈ m.round) : ∃ found, m.slotOf? id = some found := by
  obtain ⟨place, -, hplaced⟩ := List.mem_filterMap.mp h
  obtain ⟨-, hheld, hid⟩ := placed?_eq_some.mp hplaced
  rw [slotOf?, if_neg hid]
  cases hfound : m.slots.idxOf? id with
  | none => exact absurd (List.mem_of_getElem? hheld) (List.idxOf?_eq_none_iff.mp hfound)
  | some found => exact ⟨found, rfl⟩

end Magazine

namespace Changer

variable {c : Changer} {m : Magazine} {slot : Nat} {id : String} {rest : List (Nat × String)}

/-! ### The choice -/

/-- The first sample of the round is chosen, unless it is mounted. -/
theorem chooseNext_of_round {mounted : Option String} (h : m.round = (slot, id) :: rest)
    (hne : some id ≠ mounted) (tries : Nat) :
    chooseNext mounted (tries + 1) m = (m.passed slot, some id) := by
  rw [chooseNext, Magazine.next_of_round h]
  exact if_neg hne

/-- Nothing is chosen if every sample of the round is the mounted one. -/
theorem chooseNext_of_mounted {mounted : Option String}
    (h : ∀ turn ∈ m.round, some turn.2 = mounted) (tries : Nat) :
    (chooseNext mounted tries m).2 = none := by
  induction tries generalizing m with
  | zero => rfl
  | succ tries ih =>
    rcases m.next_cases with ⟨-, heq⟩ | ⟨slot, id, rest, hround, heq⟩
    · rw [chooseNext, heq]
    · have hid : some id = mounted := h (slot, id) (by rw [hround]; exact List.mem_cons_self)
      rw [chooseNext, heq]
      refine (congrArg Prod.snd (if_pos hid)).trans (ih fun turn hturn => h turn ?_)
      rw [Magazine.round_passed hround] at hturn
      exact List.mem_rotate.mp hturn

/-! ### The plan -/

theorem planMount_of_home (hs : c.state = .home) (hid : c.magazine.slotOf? id = some slot) :
    c.planMount id = .ok ⟨.mount slot, .mount, "mount", some id⟩ := by
  have hrest : c.requireRest = .ok () := by rw [requireRest, hs]; rfl
  simp only [planMount, bind, Except.bind, hrest, slotOf_eq_ok.mpr hid, if_pos hs]

/-- At rest, the first sample of the round is planned for, unless it is mounted. -/
theorem plan_next (hrest : c.state.atRest = true) (h : c.magazine.round = (slot, id) :: rest)
    (hne : some id ≠ c.mounted) :
    c.plan .next = ({ c with magazine := c.magazine.passed slot },
      (({ c with magazine := c.magazine.passed slot } : Changer).planMount id).map some) := by
  obtain ⟨before, after, hsize, -⟩ := Magazine.walk_eq_cons h
  have hrequired : c.requireRest = .ok () := if_pos hrest
  have hchosen : chooseNext c.mounted c.magazine.size c.magazine
      = (c.magazine.passed slot, some id) := by
    rw [show c.magazine.size = before + after + 1 by omega]
    exact chooseNext_of_round h hne _
  simp only [plan, planNext, hrequired, hchosen]

/-- Nothing is planned for if every sample of the round is the mounted one. -/
theorem plan_next_of_mounted (hrest : c.state.atRest = true)
    (h : ∀ turn ∈ c.magazine.round, some turn.2 = c.mounted) :
    ∃ cursor, c.plan .next = (c.turn cursor, .error .magazineEmpty) := by
  obtain ⟨cursor, hcursor⟩ := chooseNext_fst c.mounted c.magazine.size c.magazine
  have hrequired : c.requireRest = .ok () := if_pos hrest
  have hchosen := chooseNext_of_mounted h c.magazine.size
  refine ⟨cursor, ?_⟩
  simp only [plan, planNext, hrequired, hchosen, hcursor]
  rfl

/-- The mounted sample has no successor if it is alone. -/
theorem command_next_of_single (hrest : c.state.atRest = true)
    (h : c.magazine.round = [(slot, id)]) (hm : c.mounted = some id) :
    ∃ cursor, c.command .next = .done (c.turn cursor) (.error .magazineEmpty) := by
  obtain ⟨cursor, hplan⟩ := plan_next_of_mounted hrest fun turn hturn => by
    rw [h] at hturn
    rw [List.mem_singleton.mp hturn, hm]
  exact ⟨cursor, command_of_plan_error hplan⟩

end Changer

/-! ### Moves with talk in between -/

/-- From one changer to another by a list of moves.  In between, the robot may send messages that
acknowledge nothing, as long as they leave the slots as they are. -/
inductive Amid : Changer → List Move → Changer → Prop
  | done (c : Changer) : Amid c [] c
  | remark {c d : Changer} {moves : List Move} {message : Message} {label : Option String}
      (remark : message.isRemark = true)
      (same : (c.hear message label).magazine.slots = c.magazine.slots)
      (rest : Amid (c.hear message label) moves d) : Amid c moves d
  | move {c d : Changer} {moves : List Move} (move : Move) (rest : Amid (c.step move) moves d) :
      Amid c (move :: moves) d

/-- Without such messages, it is a run. -/
theorem Amid.run (c : Changer) (moves : List Move) : Amid c moves (c.run moves) := by
  induction moves generalizing c with
  | nil => exact .done c
  | cons move moves ih => exact .move move (ih (c.step move))

/-- Outside a scan, a message that leaves the slots as they are leaves everything as it is. -/
theorem Changer.hear_of_remark_same {c : Changer} {message : Message} {label : Option String}
    (hs : c.state.scanning = false) (hm : message.isRemark = true)
    (hsame : (c.hear message label).magazine.slots = c.magazine.slots) :
    c.hear message label = c := by
  obtain ⟨slots, heq⟩ := hear_of_remark hs hm label
  rw [heq] at hsame ⊢
  have hslots : slots = c.magazine.slots := hsame
  rw [hslots]
  rfl

namespace Amid

variable {c d : Changer} {moves : List Move}

theorem step {move : Move} (h : Amid c (move :: moves) d) (hs : c.state.scanning = false) :
    Amid (c.step move) moves d := by
  generalize hall : move :: moves = all at h
  induction h with
  | done c => cases hall
  | remark remark same _ ih =>
    rw [Changer.hear_of_remark_same hs remark same] at ih
    exact ih hs hall
  | move move rest _ =>
    cases hall
    exact rest

theorem eq_of_nil (h : Amid c [] d) (hs : c.state.scanning = false) : d = c := by
  generalize hall : [] = all at h
  induction h with
  | done c => rfl
  | remark remark same _ ih =>
    rw [Changer.hear_of_remark_same hs remark same] at ih
    exact ih hs hall
  | move move rest _ => cases hall

end Amid

/-! ### One command -/

/-- The next sample is asked for at home, and its mount is acknowledged. -/
def nextHome : List Move := [.command .next willing, .message .ok none]

/-- The next sample is asked for with another one mounted.  The return of that one is acknowledged,
the sample that waits is delivered, and its mount is acknowledged. -/
def nextSwitch : List Move :=
  [.command .next willing, .message .ok none, .deliver willing, .message .ok none]

/-- So many commands for the next sample, from home. -/
def nextTurns : Nat → List Move
  | 0 => []
  | turns + 1 => nextHome ++ (List.replicate turns nextSwitch).flatten

namespace Fetching

variable {c : Changer} {id : String} {slot : Nat}

/-- The mount from home. -/
theorem started (hs : c.state = .home) (hm : c.mounted = none) (hq : c.chained = []) (slot : Nat)
    (id : String) : Fetching (c.started ⟨.mount slot, .mount, "mount", some id⟩) id [] := by
  have hgoal : (⟨.mount slot, .mount, "mount", some id⟩ : Plan).goal c.state = .mounting := by
    rw [hs]; rfl
  exact ⟨hgoal, rfl, Changer.started_mountTarget hgoal, hm, hq⟩

/-- The delivery of the sample that waits. -/
theorem delivered (h : Fetching c id [id]) (hid : c.magazine.slotOf? id = some slot) :
    Fetching (c.step (.deliver willing)) id [] ∧
      (c.step (.deliver willing)).magazine = c.magazine := by
  have htaken := Changer.takeChained_of_cons h.chained
  have hresumed := Changer.resume_stored (c := c.untied) h.untied.state hid
  have hstep : c.step (.deliver willing) = { c.untied with pending := some (.mount slot) } := by
    simp only [Changer.step, htaken, hresumed]
    rfl
  rw [hstep]
  exact ⟨h.untied.pend (.mount slot), rfl⟩

end Fetching

/-- A sample is mounted, and it is the one that had its turn last. -/
structure InTurn (c : Changer) (last : Nat × String) : Prop where
  settled : Settled c (some last.2)
  last : c.magazine.round.getLast? = some last

namespace InTurn

variable {c d : Changer} {slot : Nat} {id : String} {rest : List (Nat × String)}
  {moves : List Move} {last : Nat × String}

/-- After its turn, a sample is the last one of the round. -/
theorem of_passed (hround : c.magazine.round = (slot, id) :: rest) (hd : Settled d (some id))
    (hpassed : d.magazine = c.magazine.passed slot) :
    InTurn d (slot, id) ∧ d.magazine.slots = c.magazine.slots ∧
      d.magazine.round = c.magazine.round.rotate 1 := by
  have hrotated : d.magazine.round = c.magazine.round.rotate 1 := by
    rw [hpassed, Magazine.round_passed hround]
  refine ⟨⟨hd, ?_⟩, by rw [hpassed]; rfl, hrotated⟩
  rw [hrotated, hround, List.rotate_cons_succ, List.rotate_zero, List.getLast?_concat]

/-- From home, the first sample of the round is mounted. -/
theorem first (hs : c.state = .home) (hm : c.mounted = none) (hq : c.chained = [])
    (hround : c.magazine.round = (slot, id) :: rest) (h : Amid c (nextHome ++ moves) d) :
    ∃ after, Amid after moves d ∧ InTurn after (slot, id) ∧
      after.magazine.slots = c.magazine.slots ∧
      after.magazine.round = c.magazine.round.rotate 1 := by
  obtain ⟨found, hid⟩ :=
    Magazine.slotOf?_of_mem_round (by rw [hround]; exact List.mem_cons_self)
  have hplan := Changer.plan_next (by rw [hs]; rfl) hround (by rw [hm]; nofun)
  rw [Changer.planMount_of_home (c := { c with magazine := c.magazine.passed slot }) hs hid]
    at hplan
  have hasked := Changer.step_of_plan hplan
  have hfetching := Fetching.started (c := { c with magazine := c.magazine.passed slot }) hs
    hm hq found id
  have hrest := h.step (by rw [hs]; rfl)
  rw [hasked] at hrest
  obtain ⟨hsettled, hmagazine⟩ := hfetching.acknowledged none
  exact ⟨_, hrest.step hfetching.scanning, of_passed hround hsettled hmagazine⟩

/-- With a sample mounted, the first other sample of the round replaces it. -/
theorem again (hc : InTurn c last) (hround : c.magazine.round = (slot, id) :: rest)
    (hne : id ≠ last.2) (h : Amid c (nextSwitch ++ moves) d) :
    ∃ after, Amid after moves d ∧ InTurn after (slot, id) ∧
      after.magazine.slots = c.magazine.slots ∧
      after.magazine.round = c.magazine.round.rotate 1 := by
  have hs : c.state = .homeMounted := hc.settled.state
  have hm : c.mounted = some last.2 := hc.settled.mounted
  obtain ⟨found, hid⟩ :=
    Magazine.slotOf?_of_mem_round (by rw [hround]; exact List.mem_cons_self)
  obtain ⟨held, hheld⟩ := Magazine.slotOf?_of_mem_round (List.mem_of_getLast? hc.last)
  have hplan := Changer.plan_next (by rw [hs]; rfl) hround (by rw [hm]; simpa using hne)
  rw [Changer.planMount_of_homeMounted (c := { c with magazine := c.magazine.passed slot }) hs hm
    hheld hid hne] at hplan
  have hasked := Changer.step_of_plan hplan
  have hclearing := Clearing.started (c := { c with magazine := c.magazine.passed slot }) hs
    hc.settled.chained held id
  have hrest := h.step hc.settled.scanning
  rw [hasked] at hrest
  obtain ⟨hreturned, hkept⟩ := hclearing.acknowledged none
  obtain ⟨hdelivered, hkept'⟩ := hreturned.delivered (by rw [hkept]; exact hid)
  obtain ⟨hsettled, hkept''⟩ := hdelivered.acknowledged none
  have hend := ((hrest.step hclearing.scanning).step hreturned.scanning).step hdelivered.scanning
  exact ⟨_, hend, of_passed hround hsettled (hkept''.trans (hkept'.trans hkept))⟩

/-- Any number of commands. -/
theorem turns (turns : Nat) (hc : InTurn c last)
    (hnodup : (c.magazine.round.map Prod.snd).Nodup) (hlen : 2 ≤ c.magazine.round.length)
    (h : Amid c (List.replicate turns nextSwitch).flatten d) :
    (∃ sample, (c.magazine.round.rotate turns).getLast? = some sample ∧ InTurn d sample) ∧
      d.magazine.slots = c.magazine.slots := by
  induction turns generalizing c last with
  | zero =>
    obtain rfl := h.eq_of_nil hc.settled.scanning
    exact ⟨⟨last, by rw [List.rotate_zero]; exact hc.last, hc⟩, rfl⟩
  | succ turns ih =>
    rw [List.replicate_succ, List.flatten_cons] at h
    match hround : c.magazine.round with
    | [] => rw [hround] at hlen; simp at hlen
    | [_] => rw [hround] at hlen; simp at hlen
    | (slot, id) :: second :: rest =>
      have hne : id ≠ last.2 := by
        have hlast := hc.last
        rw [hround] at hlast hnodup
        rw [List.getLast?_cons_cons] at hlast
        have hmem : last.2 ∈ (second :: rest).map Prod.snd :=
          List.mem_map_of_mem (List.mem_of_getLast? hlast)
        rintro rfl
        exact (List.nodup_cons.mp hnodup).1 hmem
      obtain ⟨after, hrest, hafter, hslots, hrotated⟩ := hc.again hround hne h
      have hperm : (after.magazine.round.map Prod.snd).Nodup := by
        rw [hrotated, List.map_rotate, List.nodup_rotate]
        exact hnodup
      have hlong : 2 ≤ after.magazine.round.length := by
        rw [hrotated, List.length_rotate]
        exact hlen
      obtain ⟨⟨sample, hsample, hd⟩, hsame⟩ := ih hafter hperm hlong hrest
      refine ⟨⟨sample, ?_, hd⟩, hsame.trans hslots⟩
      rw [hrotated, List.rotate_rotate, Nat.add_comm, hround] at hsample
      exact hsample

end InTurn

/-- The last of a list that was turned once more than `turns` times. -/
theorem getLast?_rotate_succ {α : Type} {samples : List α} (hpos : 0 < samples.length)
    (turns : Nat) :
    (samples.rotate (turns + 1)).getLast? = samples[turns % samples.length]? := by
  rw [List.getLast?_eq_getElem?, List.length_rotate, List.getElem?_rotate (by omega)]
  have hplace : samples.length - 1 + (turns + 1) = turns + samples.length := by omega
  rw [hplace, Nat.add_mod_right]

/-- **Going round.**  The arm is at home, no sample waits, and the `k` stored samples are distinct.
Commands for the next sample come one after the other, each with its acknowledgements, and a sample
that waits is delivered in between.  The robot accepts every order, and it may send any other
messages that leave the slots as they are.  The samples come to the measurement position in the
order of their slots from the cursor on, each of them once in every `k` commands, and the slots stay
as they are.  A sample that is alone is mounted, and the second command is refused. -/
theorem next_goes_round {c : Changer} (h : Reached c) (hs : c.state = .home) (hq : c.chained = [])
    (hd : c.magazine.Distinct) {k : Nat} (hk : c.magazine.occupied.length = k) (hpos : 1 ≤ k) :
    c.magazine.round.Perm c.magazine.occupied ∧ (c.magazine.round.map Prod.snd).Nodup ∧
      (∀ j d, 2 ≤ k ∨ j = 0 → Amid c (nextTurns (j + 1)) d →
        ∃ slot id, c.magazine.round[j % k]? = some (slot, id) ∧ Settled d (some id) ∧
          d.magazine.slots = c.magazine.slots) ∧
      (k = 1 → ∀ d, Amid c (nextTurns 1) d →
        ∃ cursor, d.command .next = .done (d.turn cursor) (.error .magazineEmpty)) := by
  have hperm := c.magazine.round_perm_occupied
  have hnodup := hd.nodup_round
  have hlen : c.magazine.round.length = k := hperm.length_eq.trans hk
  have hm : c.mounted = none := h.consistent.mounted_eq_none (by rw [hs]; rfl)
  obtain ⟨⟨slot, id⟩, rest, hround⟩ :=
    List.exists_cons_of_length_pos (l := c.magazine.round) (by omega)
  refine ⟨hperm, hnodup, fun j d hj hamid => ?_, fun hone d hamid => ?_⟩
  · obtain ⟨after, hrest, hafter, hslots, hrotated⟩ := InTurn.first hs hm hq hround hamid
    obtain ⟨⟨⟨slot', id'⟩, hsample, hend⟩, hsame⟩ :
        (∃ sample, (after.magazine.round.rotate j).getLast? = some sample ∧ InTurn d sample) ∧
          d.magazine.slots = after.magazine.slots := by
      rcases hj with htwo | rfl
      · refine hafter.turns j ?_ ?_ hrest
        · rw [hrotated, List.map_rotate, List.nodup_rotate]
          exact hnodup
        · rw [hrotated, List.length_rotate, hlen]
          exact htwo
      · obtain rfl := hrest.eq_of_nil hafter.settled.scanning
        exact ⟨⟨_, by rw [List.rotate_zero]; exact hafter.last, hafter⟩, rfl⟩
    refine ⟨slot', id', ?_, hend.settled, hsame.trans hslots⟩
    rw [hrotated, List.rotate_rotate, Nat.add_comm] at hsample
    rw [getLast?_rotate_succ (by omega), hlen] at hsample
    exact hsample
  · obtain ⟨after, hrest, hafter, hslots, hrotated⟩ := InTurn.first hs hm hq hround hamid
    obtain rfl := hrest.eq_of_nil hafter.settled.scanning
    have hrest : rest = [] := by
      rw [hround, List.length_cons] at hlen
      exact List.length_eq_zero_iff.mp (by omega)
    have halone : d.magazine.round = [(slot, id)] := by
      rw [hrotated, hround, hrest, List.rotate_singleton]
    exact Changer.command_next_of_single (by rw [hafter.settled.state]; rfl) halone
      hafter.settled.mounted

/-- The first and the last of three slots are occupied, and the sample of the first had its turn. -/
def amidRound : Changer :=
  (Changer.ofSize 3).run
    (loadOne ++ loadOne ++ loadOne ++ [.command (.unload "@1") willing, .message .ok none] ++
      nextHome ++ [.command .unmount willing, .message .ok none])

theorem next_goes_round_two :
    Reached amidRound ∧ amidRound.state = .home ∧ amidRound.chained = [] ∧
      amidRound.magazine.Distinct ∧ amidRound.magazine.occupied.length = 2 ∧
      amidRound.magazine.round = [(2, "@2"), (0, "@0")] ∧
      (∀ d, Amid amidRound (nextTurns 2) d → d.mounted = some "@0") ∧
      (amidRound.run (nextTurns 3)).mounted = some "@2" := by
  have hreached : Reached amidRound := (Reached.empty 3).run _
  have hs : amidRound.state = .home := by decide +kernel
  have hq : amidRound.chained = [] := by decide +kernel
  have hslots : amidRound.magazine.slots = ["@0", "", "@2"] := by decide +kernel
  have hd : amidRound.magazine.Distinct := .of_nodup (by rw [hslots]; decide)
  have hk : amidRound.magazine.occupied.length = 2 := by decide +kernel
  have hround : amidRound.magazine.round = [(2, "@2"), (0, "@0")] := by decide +kernel
  obtain ⟨-, -, hturns, -⟩ := next_goes_round hreached hs hq hd hk (by decide)
  refine ⟨hreached, hs, hq, hd, hk, hround, fun d hamid => ?_, ?_⟩
  · obtain ⟨slot, id, hsample, hsettled, -⟩ := hturns 1 d (Or.inl (by decide)) hamid
    rw [hround] at hsample
    cases hsample
    exact hsettled.mounted
  · obtain ⟨slot, id, hsample, hsettled, -⟩ :=
      hturns 2 _ (Or.inl (by decide)) (Amid.run amidRound (nextTurns 3))
    rw [hround] at hsample
    cases hsample
    exact hsettled.mounted

end Autosampler

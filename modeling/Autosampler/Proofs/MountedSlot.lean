import Autosampler.Proofs.Keeping

/-!
# Samples on their way to the measurement position

Between the start of a mount and its acknowledgement no sample is mounted yet, so no slot is
reserved, and the robot's reports change every slot.  What they leave of the sample's slot by the
time it arrives decides whether the slot is kept.

* `reportsOn`, `Magazine.after` — the reports in a list of steps, and what they alone make of the
  magazine;
* `foldl_sight_eq_self_iff` — the reports that leave a sample in its slot;
* `Changer.run_of_mounting` — during a mount, the slots change by the reports and by nothing else;
* `mounted_keepsSlot_iff` — the slot is kept exactly if the reports leave it secured.
-/

namespace Autosampler

/-! ### Reports in a row -/

/-- The reports on a slot in a list of steps: whether the slot was seen occupied. -/
def reportsOn (slot : Nat) (moves : List Move) : List Bool :=
  moves.filterMap fun
    | .message (.slot number present) _ => if number - 1 = slot then some present else none
    | _ => none

/-- What the reports in a list of steps alone make of a magazine. -/
def Magazine.after (m : Magazine) (moves : List Move) : Magazine :=
  { m with slots := m.slots.mapIdx fun slot held => (reportsOn slot moves).foldl (sight slot) held }

theorem reportsOn_cons (slot : Nat) (move : Move) (moves : List Move) :
    reportsOn slot (move :: moves) = reportsOn slot [move] ++ reportsOn slot moves :=
  List.filterMap_append (l := [move])

theorem reportsOn_slot (number : Nat) (present : Bool) (label : Option String) (slot : Nat) :
    reportsOn slot [.message (.slot number present) label]
      = if number - 1 = slot then [present] else [] := by
  by_cases h : number - 1 = slot <;> simp [reportsOn, h]

theorem getElem?_after (m : Magazine) (moves : List Move) (slot : Nat) :
    (m.after moves).slots[slot]?
      = m.slots[slot]?.map fun held => (reportsOn slot moves).foldl (sight slot) held :=
  List.getElem?_mapIdx

/-- After some reports a slot holds what it held before, nothing, or its placeholder. -/
theorem foldl_sight_cases (slot : Nat) (held : String) (flags : List Bool) :
    flags.foldl (sight slot) held = held ∨ flags.foldl (sight slot) held = "" ∨
      flags.foldl (sight slot) held = placeholder slot := by
  induction flags generalizing held with
  | nil => exact Or.inl rfl
  | cons present flags ih =>
    rw [List.foldl_cons]
    have hrest := ih (sight slot held present)
    rcases sight_cases slot held present with heq | heq | heq <;> rw [heq] at hrest ⊢
    · exact hrest
    · rcases hrest with h | h
      · exact Or.inr (Or.inl h)
      · exact Or.inr h
    · rcases hrest with h | h
      · exact Or.inr (Or.inr h)
      · exact Or.inr h

/-- The reports leave a sample where it is exactly if none of them misses it, or if it bears the
name of the slot and the last of them sees it. -/
theorem foldl_sight_eq_self_iff {slot : Nat} {id : String} (hid : id ≠ "") (flags : List Bool) :
    flags.foldl (sight slot) id = id ↔
      false ∉ flags ∨ id = placeholder slot ∧ flags.getLast? = some true := by
  -- the last report decides, so the induction runs from the end
  rw [List.foldl_eq_foldr_reverse, ← List.mem_reverse, List.getLast?_eq_head?_reverse]
  induction flags.reverse with
  | nil => simp
  | cons last flags ih =>
    have hcases := foldl_sight_cases slot id flags.reverse
    rw [List.foldl_reverse] at hcases
    rw [List.foldr_cons, List.head?_cons]
    cases last with
    | false => simp [sight, hid.symm]
    | true =>
      by_cases hname : id = placeholder slot
      · -- seen again, the sample is back under its name
        refine iff_of_true ?_ (Or.inr ⟨hname, rfl⟩)
        rcases hcases with h | h | h <;> rw [h]
        · simp [sight, hid]
        · simp [sight, hname]
        · simp [sight, hname]
      · have hbefore : flags.foldr (fun present held => sight slot held present) id = id ↔
            false ∉ flags := by
          rw [ih]
          exact or_iff_left fun h => hname h.1
        have hafter : sight slot (flags.foldr (fun present held => sight slot held present) id) true
            = id ↔ flags.foldr (fun present held => sight slot held present) id = id := by
          rcases hcases with h | h | h <;> rw [h]
          · simp [sight, hid]
          · simp [sight, Ne.symm hname, hid.symm]
          · simp [sight, Ne.symm hname, placeholder_ne_empty]
        rw [hafter, hbefore]
        simp [hname]

/-- In a slot that does not bear a sample's name, the sample does not turn up by reports. -/
theorem foldl_sight_ne (slot : Nat) {held id : String} (hid : id ≠ "") (hheld : held ≠ id)
    (hname : id ≠ placeholder slot) (flags : List Bool) : flags.foldl (sight slot) held ≠ id := by
  rcases foldl_sight_cases slot held flags with h | h | h <;> rw [h]
  · exact hheld
  · exact hid.symm
  · exact hname.symm

namespace Magazine

variable {m m' : Magazine} {slot : Nat} {id : String}

theorem Secures.of_slots (h : m.Secures slot id) (hslots : m'.slots = m.slots) :
    m'.Secures slot id := by
  have hfound : m'.slotOf? id = m.slotOf? id := by rw [slotOf?, slotOf?, hslots]
  refine ⟨by rw [hfound]; exact h.found, ?_⟩
  intro j hj hown
  rw [hslots]
  exact h.own j (by rw [size, ← hslots]; exact hj) hown

/-- For a sample that bears the name of no other slot, only the reports on its own slot matter. -/
theorem secures_after_iff (hfound : m.slotOf? id = some slot)
    (hown : ∀ j < m.size, id = placeholder j → j = slot) (moves : List Move) :
    (m.after moves).Secures slot id ↔
      false ∉ reportsOn slot moves ∨
        id = placeholder slot ∧ (reportsOn slot moves).getLast? = some true := by
  obtain ⟨hid, hheld, hbefore⟩ := slotOf?_eq_some_iff.mp hfound
  have hafter : (m.after moves).slots[slot]?
      = some ((reportsOn slot moves).foldl (sight slot) id) := by
    rw [getElem?_after, hheld]
    rfl
  rw [← foldl_sight_eq_self_iff hid]
  constructor
  · intro h
    exact Option.some.inj (hafter.symm.trans h.stored)
  · intro hstays
    rw [hstays] at hafter
    refine ⟨slotOf?_eq_some_iff.mpr ⟨hid, hafter, ?_⟩, ?_⟩
    · intro j hj
      have hne := hbefore j hj
      rw [getElem?_after]
      cases hslot : m.slots[j]? with
      | none => exact Option.some_ne_none _ |>.symm
      | some held =>
        rw [hslot] at hne
        intro heq
        refine foldl_sight_ne j hid (fun hsame => hne (congrArg some hsame)) ?_ _
          (Option.some.inj heq)
        intro hname
        exact Nat.ne_of_lt hj (hown j (lt_size_of_held hslot) hname)
    · intro j hj hname
      have hlt : j < m.size := by
        have hlength : (m.after moves).size = m.size := List.length_mapIdx
        rw [← hlength]
        exact hj
      rw [hown j hlt hname]
      exact hafter

end Magazine

/-! ### The way to the measurement position -/

namespace Changer

variable {c : Changer} {label : Option String}

/-- During a mount, a message changes the slots as its report says. -/
theorem hear_of_mounting (h : Consistent c) (hs : c.state = .mounting) {message : Message}
    (hm : message ≠ .ok) (slot : Nat) :
    (c.hear message label).magazine.slots[slot]?
        = c.magazine.slots[slot]?.map fun held =>
            (reportsOn slot [.message message label]).foldl (sight slot) held := by
  have hscan : c.state.scanning = false := by rw [hs]; rfl
  cases message with
  | slot number present =>
    rw [hear_slot_of_not_scanning number present hscan, reportsOn_slot]
    split
    · rename_i hbeyond
      by_cases heq : number - 1 = slot
      · have hnone : c.magazine.slots[slot]? = none := by
          apply List.getElem?_eq_none
          show c.magazine.size ≤ slot
          omega
        rw [hnone]
        rfl
      · rw [if_neg heq]
        exact Option.map_id'.symm
    · rw [getElem?_notePresence]
      by_cases heq : number - 1 = slot
      · have hm : c.mounted = none := h.mounted_eq_none (by rw [hs]; rfl)
        rw [if_pos heq, if_pos heq, heq, seen_of_mounted_eq_none hm]
        rfl
      · rw [if_neg heq, if_neg heq]
        exact Option.map_id'.symm
  | qr number =>
    rw [hear_code_of_not_scanning number hscan]
    exact Option.map_id'.symm
  | get key => exact Option.map_id'.symm
  | ok => exact absurd rfl hm
  | error text =>
    rcases hear_error_eq (c := c) text label with heq | heq <;> rw [heq] <;>
      exact Option.map_id'.symm

/-- During a mount, a step that does not end it changes the slots as its report says, and it goes
on with the same sample. -/
theorem step_of_mounting (h : Consistent c) (hs : c.state = .mounting) {move : Move}
    (hstays : (c.step move).state = .mounting) :
    (c.step move).machine.mountTarget = c.machine.mountTarget ∧
      ∀ slot : Nat, (c.step move).magazine.slots[slot]?
        = c.magazine.slots[slot]?.map fun held =>
            (reportsOn slot [move]).foldl (sight slot) held := by
  cases move with
  | command command answer =>
    obtain ⟨cursor, heq⟩ := command_of_mounting hs command answer hstays
    rw [step, heq]
    exact ⟨rfl, fun slot => Option.map_id'.symm⟩
  | message message label =>
    have hm := h.ne_ok_of_mounting hs hstays
    have hscan : c.state.scanning = false := by rw [hs]; rfl
    refine ⟨?_, fun slot => hear_of_mounting h hs hm slot⟩
    obtain ⟨magazine, pending, heq⟩ := hear_of_not_scanning hscan hm label
    rw [step, heq]
  | deliver answer =>
    have hupshot := c.delivered answer
    generalize c.step (.deliver answer) = after, c.calls (.deliver answer) = asked at hupshot hstays
    cases hupshot with
    | nothing _ => exact ⟨rfl, fun slot => Option.map_id'.symm⟩
    | aside _ elsewhere => exact absurd hs elsewhere
    | missing _ _ _ => cases hstays
    | started _ _ _ _ => exact ⟨rfl, fun slot => Option.map_id'.symm⟩
    | refused _ _ _ _ => cases hstays

/-- Until a mount is over, the slots change by the reports and by nothing else. -/
theorem run_of_mounting (h : Consistent c) {carry : List Move}
    (hcarry : Along (fun d => d.state = .mounting) c carry) :
    (c.run carry).machine.mountTarget = c.machine.mountTarget ∧
      (c.run carry).magazine.slots = (c.magazine.after carry).slots := by
  suffices hslots : (c.run carry).machine.mountTarget = c.machine.mountTarget ∧
      ∀ slot : Nat, (c.run carry).magazine.slots[slot]?
        = c.magazine.slots[slot]?.map fun held =>
            (reportsOn slot carry).foldl (sight slot) held by
    refine ⟨hslots.1, List.ext_getElem? fun slot => ?_⟩
    rw [hslots.2, getElem?_after]
  induction carry generalizing c with
  | nil => exact ⟨rfl, fun slot => Option.map_id'.symm⟩
  | cons move carry ih =>
    obtain ⟨htarget, hfirst⟩ := step_of_mounting h hcarry.1 hcarry.2.head
    obtain ⟨htarget', hrest⟩ := ih (h.step move) hcarry.2
    refine ⟨htarget'.trans htarget, fun slot => ?_⟩
    rw [run_cons, hrest slot, hfirst slot, Option.map_map,
      reportsOn_cons slot move carry]
    simp only [List.foldl_append, Function.comp_def]

end Changer

/-! ### Programs that bring a sample -/

namespace Changer

variable {c : Changer} {k : Nat}

/-- An accepted mount program is on the way with the sample of its slot.  Only a delivery can ask
for the program of another sample than the one of the mount under way. -/
theorem mounting_of_calls {start : Move}
    (hcalls : (Order.run (Program.mount k).fileName "mount", .ok ()) ∈ c.calls start) :
    (c.step start).state = .mounting ∧
      ∃ wanted, (c.step start).magazine.slotOf? wanted = some k ∧
        (start.isDelivery = false → (c.step start).machine.mountTarget = some wanted) := by
  cases start with
  | command command answer =>
    rw [calls, List.mem_map] at hcalls
    obtain ⟨order, horder, hpair⟩ := hcalls
    obtain ⟨rfl, hanswer⟩ := Prod.mk.inj hpair
    rw [step]
    have hupshot := command_upshot c command answer
    generalize (c.command command).carryOut answer = carried at hupshot horder
    cases hupshot with
    | quiet cursor idle => exact absurd horder (idle _ _)
    | reset home => exact absurd (home _ _ horder) (by decide)
    | @started cursor p _ planned _ =>
      obtain ⟨hname, htag⟩ := Order.run.inj (List.mem_singleton.mp horder)
      cases planned with
      | @mount slot id home stored =>
        cases Program.mount_fileName_injective hname
        have hgoal : Plan.goal ⟨.mount k, .mount, "mount", some id⟩ (c.turn cursor).state
            = .mounting := by
          rw [home]; rfl
        exact ⟨hgoal, id, stored, fun _ => started_mountTarget hgoal⟩
      | _ => simp [switchTag, Event.id] at htag
    | refused _ _ answered =>
      have horder' := List.mem_singleton.mp horder
      rw [horder', answered] at hanswer
      cases hanswer
  | message message label => cases hcalls
  | deliver answer =>
    have hupshot := c.delivered answer
    generalize c.step (.deliver answer) = after, c.calls (.deliver answer) = asked
      at hupshot hcalls
    cases hupshot with
    | nothing _ => cases hcalls
    | aside _ _ => cases hcalls
    | missing _ _ _ => cases hcalls
    | @started id _ slot _ mounting stored _ =>
      have hname := (Prod.mk.inj (List.mem_singleton.mp hcalls)).1
      cases Program.mount_fileName_injective (Order.run.inj hname).1
      exact ⟨mounting, id, stored, fun h => Bool.noConfusion h⟩
    | refused _ _ _ _ =>
      have hanswer := (Prod.mk.inj (List.mem_singleton.mp hcalls)).2
      cases hanswer

end Changer

/-- **When the mounted sample keeps its slot.**  In any run from an empty changer, let the robot
accept the mount program of slot `k`, and let nothing end the mount before its acknowledgement.
The slot is kept for as long as the sample is mounted exactly if the reports on the way leave it
secured.  For the sample of slot `k`, under a name that is not made up for another slot, it means
that no report on the way misses it, or that it has no other name than the slot's and is seen
again. -/
theorem mounted_keepsSlot_iff (n k : Nat) (before carry : List Move) (start : Move)
    (label : Option String)
    (hasked : (Order.run (Program.mount k).fileName "mount", .ok ()) ∈
      ((Changer.ofSize n).run before).calls start)
    (hcarry : Changer.Along (fun d => d.state = .mounting)
      (((Changer.ofSize n).run before).step start) carry) :
    let asked := ((Changer.ofSize n).run before).step start
    let arrived := (asked.run carry).step (.message .ok label)
    ∃ wanted id, asked.magazine.slotOf? wanted = some k ∧
      (start.isDelivery = false → wanted = id) ∧ arrived.mounted = some id ∧
      ((∀ later, Stays id arrived later → KeepsSlot later k id) ↔
        (asked.magazine.after carry).Secures k id) ∧
      (wanted = id → (∀ j < asked.magazine.size, id = placeholder j → j = k) →
        ((asked.magazine.after carry).Secures k id ↔
          false ∉ reportsOn k carry ∨
            id = placeholder k ∧ (reportsOn k carry).getLast? = some true)) := by
  intro asked arrived
  have hconsistent : Consistent asked := ((Consistent.ofSize n).run before).step start
  obtain ⟨hs, wanted, hwanted, hown⟩ := Changer.mounting_of_calls hasked
  obtain ⟨id, hid⟩ := hconsistent.target_of_mounting hs
  obtain ⟨htarget, hslots⟩ := Changer.run_of_mounting hconsistent hcarry
  have hend : Consistent (asked.run carry) := hconsistent.run carry
  obtain ⟨hstate, hmounted, hmagazine⟩ :=
    hend.hear_ok_of_mounting hcarry.last (htarget.trans hid) label
  have harrived : arrived.magazine.slots = (asked.magazine.after carry).slots := by
    rw [← hslots]
    exact congrArg Magazine.slots hmagazine
  refine ⟨wanted, id, hwanted, ?_, hmounted, ?_, ?_⟩
  · intro hstart
    exact Option.some.inj ((hown hstart).symm.trans hid)
  · rw [keepsSlot_iff_secures (hend.step (.message .ok label)) hstate hmounted]
    exact ⟨fun h => h.of_slots harrived.symm, fun h => h.of_slots harrived⟩
  · rintro rfl hname
    exact Magazine.secures_after_iff hwanted hname carry

/-- On the way of the first sample, another slot is reported, and its own is missed and seen again. -/
def seenAgain : List Move :=
  [.message (.slot 2 false) none, .message (.slot 1 false) none, .message (.slot 1 true) none]

/-- On the way of the first sample, its slot is seen and then missed. -/
def overlooked : List Move :=
  [.message (.slot 1 true) none, .message (.slot 1 false) none, .message (.slot 2 false) none]

/-- The sample of the first slot keeps its slot if it is seen again, and not if it is missed. -/
theorem mounted_keepsSlot_iff_first :
    let loaded := (Changer.ofSize 2).run loadOne
    let asked := loaded.step (.command (.mount "@0") willing)
    let kept := (asked.run seenAgain).step (.message .ok none)
    let lost := (asked.run overlooked).step (.message .ok none)
    (Order.run (Program.mount 0).fileName "mount", .ok ()) ∈
        loaded.calls (.command (.mount "@0") willing) ∧
      asked.magazine.slotOf? "@0" = some 0 ∧
      (Changer.Along (fun d => d.state = .mounting) asked seenAgain ∧ kept.mounted = some "@0" ∧
        ∀ later, Stays "@0" kept later → KeepsSlot later 0 "@0") ∧
      Changer.Along (fun d => d.state = .mounting) asked overlooked ∧ lost.mounted = some "@0" ∧
        ¬∀ later, Stays "@0" lost later → KeepsSlot later 0 "@0" := by
  intro loaded asked kept lost
  have hname : placeholder 0 = "@0" := by decide +kernel
  have hown : ∀ j < asked.magazine.size, "@0" = placeholder j → j = 0 :=
    fun j _ hj => placeholder_injective (hj.symm.trans hname.symm)
  have hasked : (Order.run (Program.mount 0).fileName "mount", .ok ()) ∈
      loaded.calls (.command (.mount "@0") willing) := by
    have horders : ((loaded.command (.mount "@0")).carryOut willing).orders
        = [.run (Program.mount 0).fileName "mount"] := by
      decide +kernel
    rw [Changer.calls, horders]
    exact List.mem_singleton.mpr rfl
  have hstored : asked.magazine.slotOf? "@0" = some 0 := by decide +kernel
  have hseen : Changer.Along (fun d => d.state = .mounting) asked seenAgain := by
    decide +kernel
  have hmissed : Changer.Along (fun d => d.state = .mounting) asked overlooked := by
    decide +kernel
  have hkept : kept.mounted = some "@0" := by decide +kernel
  have hlost : lost.mounted = some "@0" := by decide +kernel
  refine ⟨hasked, hstored, ⟨hseen, hkept, ?_⟩, hmissed, hlost, ?_⟩
  · obtain ⟨wanted, id, -, hwanted, harrived, hkeeps, hreports⟩ :=
      mounted_keepsSlot_iff 2 0 loadOne seenAgain (.command (.mount "@0") willing) none hasked hseen
    cases harrived.symm.trans hkept
    exact hkeeps.mpr ((hreports (hwanted rfl) hown).mpr (Or.inr ⟨hname.symm, rfl⟩))
  · obtain ⟨wanted, id, -, hwanted, harrived, hkeeps, hreports⟩ :=
      mounted_keepsSlot_iff 2 0 loadOne overlooked (.command (.mount "@0") willing) none hasked
        hmissed
    cases harrived.symm.trans hlost
    rw [hkeeps, hreports (hwanted rfl) hown]
    decide +kernel

/-- The slot of a sample is seen empty while the sample is on its way: the sample is mounted, no
slot stores it, and it cannot be returned. -/
theorem missed_sample_loses_slot :
    let c := (Changer.ofSize 1).run (loadOne ++
      [.command (.mount "@0") willing, .message (.slot 1 false) none, .message .ok none])
    c.state = .homeMounted ∧ c.mounted = some "@0" ∧ c.magazine.slots = [""] ∧
      (∀ slot, c.planUnmount ≠ .ok ⟨.unmount slot, .unmount, "unmount", some "@0"⟩) ∧
      c.planLoad = .ok ⟨.load 0, .load, "load", some "@0"⟩ := by
  intro c
  have hs : c.state = .homeMounted := by decide +kernel
  have hm : c.mounted = some "@0" := by decide +kernel
  have hslots : c.magazine.slots = [""] := by decide +kernel
  refine ⟨hs, hm, hslots, ?_, ?_⟩
  · intro slot hplan
    have hplanned := Changer.planned_of_planUnmount hplan
    cases hplanned with
    | unmount _ _ stored =>
      have hheld := (Magazine.slotOf?_eq_some_iff.mp stored).2.1
      rw [hslots] at hheld
      cases slot <;> simp at hheld
  · have hfree : c.magazine.firstFree? = some 0 := by rw [Magazine.firstFree?, hslots]; rfl
    have hname : placeholder 0 = "@0" := by decide +kernel
    simp only [Changer.planLoad, Changer.requireRest, hs, hfree, hname]
    rfl

end Autosampler

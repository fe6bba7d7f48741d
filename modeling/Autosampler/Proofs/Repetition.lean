import Autosampler.Proofs.Round

/-!
# A refused command for the next sample

The plan for the next sample moves the round on, and a refusal does not move it back.  The command
that follows is for the sample after the refused one, which has its turn again after all the others.

* `Changer.others` — the samples that are not mounted, in the order of their turns;
* `Changer.chooseNext_of_skipped`, `Changer.plan_next_of_others` — the choice of the first of them,
  which goes to the end;
* `Changer.planMount_again`, `Changer.planned_of_next` — if one of them can be planned for, so can
  the others;
* `Changer.refused_next`, `Changer.refused_nexts` — one refusal, and any number of them;
* `refused_next_repeats_iff` — when the same sample is planned for again.
-/

namespace Autosampler

namespace Changer

variable {c c' d : Changer} {p : Plan} {m : Magazine} {mounted : Option String} {slot : Nat}
  {id : String} {skipped rest : List (Nat × String)} {answer : Order → Answer}

/-! ### The first of the others -/

/-- The samples that are not mounted, in the order of their turns. -/
def others (c : Changer) : List String :=
  (c.magazine.round.filter fun turn => some turn.2 ≠ c.mounted).map Prod.snd

theorem mem_others (h : id ∈ c.others) :
    some id ≠ c.mounted ∧ ∃ slot, c.magazine.slotOf? id = some slot := by
  obtain ⟨⟨slot, id⟩, hturn, rfl⟩ := List.mem_map.mp h
  obtain ⟨hround, hne⟩ := List.mem_filter.mp hturn
  exact ⟨of_decide_eq_true hne, Magazine.slotOf?_of_mem_round hround⟩

theorem others_nodup (h : c.magazine.Distinct) : c.others.Nodup :=
  h.nodup_round.sublist (List.filter_sublist.map Prod.snd)

/-- The choice passes over the mounted sample, and every sample that it comes to goes to the end of
the round. -/
theorem chooseNext_of_skipped (h : m.round = skipped ++ (slot, id) :: rest)
    (hskipped : ∀ turn ∈ skipped, some turn.2 = mounted) (hne : some id ≠ mounted) (tries : Nat)
    (htries : skipped.length < tries) :
    ∃ cursor, chooseNext mounted tries m = ({ m with cursor := cursor }, some id) ∧
      ({ m with cursor := cursor } : Magazine).round = rest ++ skipped ++ [(slot, id)] := by
  induction skipped generalizing m rest tries with
  | nil =>
    obtain ⟨left, rfl⟩ : ∃ left, tries = left + 1 := ⟨tries - 1, by omega⟩
    refine ⟨_, chooseNext_of_round h hne left, ?_⟩
    show (m.passed slot).round = _
    rw [Magazine.round_passed h, h, List.nil_append, List.rotate_cons_succ, List.rotate_zero,
      List.append_nil]
  | cons first skipped ih =>
    obtain ⟨slot', id'⟩ := first
    rw [List.length_cons] at htries
    obtain ⟨left, rfl⟩ : ∃ left, tries = left + 1 := ⟨tries - 1, by omega⟩
    have hnext : chooseNext mounted (left + 1) m = chooseNext mounted left (m.passed slot') := by
      rw [chooseNext, Magazine.next_of_round h]
      exact if_pos (hskipped (slot', id') List.mem_cons_self)
    have hround : (m.passed slot').round = skipped ++ (slot, id) :: (rest ++ [(slot', id')]) := by
      rw [Magazine.round_passed h, h, List.cons_append, List.rotate_cons_succ, List.rotate_zero,
        List.append_assoc, List.cons_append]
    obtain ⟨cursor, hchosen, hafter⟩ :=
      ih hround (fun turn hturn => hskipped turn (List.mem_cons_of_mem _ hturn)) left (by omega)
    refine ⟨cursor, hnext.trans hchosen, hafter.trans ?_⟩
    rw [List.append_assoc rest, List.singleton_append]

/-- At rest, the first of the others is planned for, and it goes to their end. -/
theorem plan_next_of_others {samples : List String} (hr : c.state.atRest = true)
    (h : c.others = id :: samples) :
    ∃ cursor, c.plan .next = (c.turn cursor, ((c.turn cursor).planMount id).map some) ∧
      (c.turn cursor).others = samples ++ [id] := by
  obtain ⟨⟨slot, id⟩, rest, hothers, rfl, hsamples⟩ := List.map_eq_cons_iff.mp h
  obtain ⟨skipped, rest, hround, hskipped, hne, rfl⟩ := List.filter_eq_cons_iff.mp hothers
  have hskipped' : ∀ turn ∈ skipped, some turn.2 = c.mounted := fun turn hturn => by
    simpa using hskipped turn hturn
  have hne' : some id ≠ c.mounted := of_decide_eq_true hne
  have hlength : c.magazine.round.length ≤ c.magazine.size :=
    (List.length_filterMap_le _ _).trans_eq List.length_range'
  rw [hround, List.length_append, List.length_cons] at hlength
  obtain ⟨cursor, hchosen, hafter⟩ :=
    chooseNext_of_skipped hround hskipped' hne' c.magazine.size (by omega)
  have hrequired : c.requireRest = .ok () := if_pos hr
  refine ⟨cursor, ?_, ?_⟩
  · simp only [plan, planNext, hrequired, hchosen]
    rfl
  · have hnone : skipped.filter (fun turn => some turn.2 ≠ c.mounted) = [] :=
      List.filter_eq_nil_iff.mpr hskipped
    have hlast : [(slot, id)].filter (fun turn => some turn.2 ≠ c.mounted) = [(slot, id)] :=
      List.filter_eq_self.mpr (by simpa using hne')
    show (((c.turn cursor).magazine.round).filter fun turn => some turn.2 ≠ c.mounted).map _ = _
    rw [show (c.turn cursor).magazine.round = _ from hafter, List.filter_append,
      List.filter_append, hnone, hlast, List.append_nil, List.map_append, hsamples]
    rfl

/-! ### Plans of a mount -/

/-- The plan of a mount depends on the state, on what is mounted and on the slots. -/
theorem planMount_congr (hs : d.state = c.state) (hm : d.mounted = c.mounted)
    (hslots : d.magazine.slots = c.magazine.slots) (id : String) :
    d.planMount id = c.planMount id := by
  have hslot (name : String) : d.slotOf name = c.slotOf name := by
    simp only [slotOf, Magazine.slotOf?, hslots]
  simp only [planMount, requireRest, hs, hm, hslot]

theorem event_of_planMount (h : c.planMount id = .ok p) :
    p.event = .mount ∧ p.sample = some id := by
  simp only [planMount, bind, Except.bind] at h
  repeat' split at h
  all_goals cases h
  all_goals exact ⟨rfl, rfl⟩

/-- If one of the samples can be planned for, so can all that are not mounted. -/
theorem planMount_again {other : String} (h : c.planMount id = .ok p)
    (hother : other ∈ c.others) : ∃ q, c.planMount other = .ok q := by
  obtain ⟨hne, slot, hstored⟩ := mem_others hother
  have hevent := (event_of_planMount h).1
  have hp := planned_of_planMount h
  cases hp with
  | load _ _ => cases hevent
  | unload _ _ _ => cases hevent
  | scan _ => cases hevent
  | mount home _ => exact ⟨_, planMount_of_home home hstored⟩
  | switch home mounted _ held _ =>
    refine ⟨_, planMount_of_homeMounted home mounted held hstored ?_⟩
    rintro rfl
    exact hne mounted.symm
  | unmount _ _ _ => cases hevent
  | run _ => cases hevent

/-- A command for the next sample has a plan if one of the others can be planned for. -/
theorem exists_plan_next (h : c.planMount id = .ok p) (hothers : c.others ≠ []) :
    ∃ after q, c.plan .next = (after, .ok (some q)) := by
  obtain ⟨other, samples, hfirst⟩ := List.exists_cons_of_ne_nil hothers
  obtain ⟨cursor, hnext, -⟩ := plan_next_of_others (planned_of_planMount h).atRest hfirst
  obtain ⟨q, hq⟩ := planMount_again h (by rw [hfirst]; exact List.mem_cons_self)
  have hsame : (c.turn cursor).planMount other = c.planMount other :=
    planMount_congr rfl rfl rfl other
  refine ⟨c.turn cursor, q, ?_⟩
  rw [hnext, hsame, hq]
  rfl

/-- The plan of a command for the next sample is for the first of the others, which goes to their
end. -/
theorem planned_of_next (hplan : c.plan .next = (c', .ok (some p))) :
    ∃ id samples, c.others = id :: samples ∧ c'.others = samples ++ [id] ∧
      c'.planMount id = .ok p := by
  have hr : c.state.atRest = true := by
    obtain ⟨cursor, rfl⟩ := turn_of_plan hplan
    exact (planned_of_plan hplan).atRest
  cases hothers : c.others with
  | nil =>
    have hnone : ∀ turn ∈ c.magazine.round, some turn.2 = c.mounted := by
      simpa [others] using hothers
    obtain ⟨cursor, hempty⟩ := plan_next_of_mounted hr hnone
    rw [hempty] at hplan
    cases hplan
  | cons id samples =>
    obtain ⟨cursor, hnext, hturned⟩ := plan_next_of_others hr hothers
    rw [hnext] at hplan
    obtain ⟨rfl, hmap⟩ := Prod.mk.inj hplan
    refine ⟨id, samples, rfl, hturned, ?_⟩
    cases hmount : (c.turn cursor).planMount id with
    | error e =>
      rw [hmount] at hmap
      cases hmap
    | ok q =>
      rw [hmount] at hmap
      cases hmap
      rfl

/-! ### Refusals -/

/-- A refused command leaves what its plan leaves, and nothing under way. -/
theorem step_refused {command : Command} {reason : String}
    (hplan : c.plan command = (c', .ok (some p)))
    (h : answer (.run p.program.fileName p.tag) = .error reason) :
    c.step (.command command answer) = (c'.started p).abort c'.state := by
  simp only [step, command_of_plan hplan, execute_of_planned (planned_of_plan hplan), Action.map,
    Action.carryOut, h]

/-- The refused sample goes to the end of the others, and the next command has a plan as well. -/
theorem refused_next {reason : String} (hplan : c.plan .next = (c', .ok (some p)))
    (h : answer (.run p.program.fileName p.tag) = .error reason) :
    (c.step (.command .next answer)).others = c.others.rotate 1 ∧
      ∃ after q, (c.step (.command .next answer)).plan .next = (after, .ok (some q)) := by
  obtain ⟨id, samples, hothers, hturned, hmount⟩ := planned_of_next hplan
  have hsame : ((c'.started p).abort c'.state).others = samples ++ [id] := hturned
  have hmount' : ((c'.started p).abort c'.state).planMount id = .ok p :=
    (planMount_congr rfl rfl rfl id).trans hmount
  rw [step_refused hplan h, hothers, List.rotate_cons_succ, List.rotate_zero]
  exact ⟨hsame, exists_plan_next hmount' (by rw [hsame]; simp)⟩

theorem sample_of_next (hplan : c.plan .next = (c', .ok (some p))) :
    p.sample = c.others.head? := by
  obtain ⟨id, samples, hothers, -, hmount⟩ := planned_of_next hplan
  rw [hothers, (event_of_planMount hmount).2]
  rfl

/-- The robot refuses every program. -/
def Refuses (answer : Order → Answer) : Prop :=
  ∀ name tag, ∃ reason, answer (.run name tag) = .error reason

/-- With every refusal, the others are turned once more. -/
theorem refused_nexts (hplan : c.plan .next = (c', .ok (some p))) (h : Refuses answer)
    (refusals : Nat) :
    (c.run (List.replicate refusals (.command .next answer))).others
        = c.others.rotate refusals ∧
      ∃ after q, (c.run (List.replicate refusals (.command .next answer))).plan .next
        = (after, .ok (some q)) := by
  induction refusals generalizing c c' p with
  | zero => exact ⟨(List.rotate_zero _).symm, c', p, hplan⟩
  | succ refusals ih =>
    obtain ⟨reason, hreason⟩ := h p.program.fileName p.tag
    obtain ⟨hturned, after, q, hagain⟩ := refused_next hplan hreason
    obtain ⟨hothers, hlater⟩ := ih hagain
    rw [List.replicate_succ, run_cons]
    refine ⟨?_, hlater⟩
    rw [hothers, hturned, List.rotate_rotate, Nat.add_comm]

end Changer

/-- **A refused command for the next sample.**  The plan is for the first of the samples that are
not mounted, and the robot refuses its program.  Then the next such command has a plan as well.  It
is for the same sample exactly if no other one comes after it in the round; with distinct samples,
exactly if there is no other one.  As long as the robot refuses every program, the commands go on
from one of these samples to the other, and all of them have their turn before the first one has it
again. -/
theorem refused_next_repeats_iff {c c' : Changer} {p : Plan} {answer : Order → Answer}
    {reason : String} (hplan : c.plan .next = (c', .ok (some p)))
    (h : answer (.run p.program.fileName p.tag) = .error reason) :
    p.sample = c.others[0]? ∧
      (∃ after q, (c.step (.command .next answer)).plan .next = (after, .ok (some q)) ∧
        (q.sample = p.sample ↔ ∀ id, c.others[1]? = some id → p.sample = some id) ∧
        (c.magazine.Distinct → (q.sample = p.sample ↔ c.others.length = 1))) ∧
      (Changer.Refuses answer → ∀ refusals, ∃ after q,
        (c.run (List.replicate refusals (.command .next answer))).plan .next
            = (after, .ok (some q)) ∧
          q.sample = c.others[refusals % c.others.length]?) := by
  have hpos : 0 < c.others.length := by
    obtain ⟨id, samples, hothers, -⟩ := Changer.planned_of_next hplan
    rw [hothers]
    exact Nat.succ_pos _
  have hhead (turns : Nat) :
      (c.others.rotate turns).head? = c.others[turns % c.others.length]? := by
    rw [← List.rotate_mod, List.head?_rotate (Nat.mod_lt _ hpos)]
  have hfirst : p.sample = c.others[0]? := by
    rw [Changer.sample_of_next hplan, List.head?_eq_getElem?]
  refine ⟨hfirst, ?_, fun hrefuses refusals => ?_⟩
  · obtain ⟨hturned, after, q, hagain⟩ := Changer.refused_next hplan h
    refine ⟨after, q, hagain, ?_⟩
    have hnodup (hd : c.magazine.Distinct) : c.others.Nodup := Changer.others_nodup hd
    rw [Changer.sample_of_next hagain, hturned, hhead, hfirst]
    generalize c.others = samples at hpos hnodup
    match samples with
    | [] => cases hpos
    | [only] => simp
    | first :: second :: rest =>
      have hplace : 1 % (first :: second :: rest).length = 1 := Nat.mod_eq_of_lt (by simp)
      rw [hplace]
      refine ⟨by simp [eq_comm], fun hd => ?_⟩
      have hne : second ≠ first := by
        rintro rfl
        exact (List.nodup_cons.mp (hnodup hd)).1 List.mem_cons_self
      exact iff_of_false (by simpa using hne) (by simp)
  · obtain ⟨hturned, after, q, hagain⟩ := Changer.refused_nexts hplan hrefuses refusals
    exact ⟨after, q, hagain, by rw [Changer.sample_of_next hagain, hturned, hhead]⟩

/-- The only sample that is not mounted is refused, and it is planned for again. -/
theorem refused_next_repeats_iff_alone :
    firstOfTwo.others = ["@1"] ∧ firstOfTwo.magazine.Distinct ∧
      ∃ after p, firstOfTwo.plan .next = (after, .ok (some p)) ∧ p.sample = some "@1" ∧
        ∃ after q, (firstOfTwo.step (.command .next unwilling)).plan .next
            = (after, .ok (some q)) ∧
          q.sample = p.sample := by
  have hothers : firstOfTwo.others = ["@1"] := by decide +kernel
  have hslots : firstOfTwo.magazine.slots = ["@0", "@1"] := by decide +kernel
  have hd : firstOfTwo.magazine.Distinct := .of_nodup (by rw [hslots]; decide)
  have hs : firstOfTwo.state = .homeMounted := by decide +kernel
  have hm : firstOfTwo.mounted = some "@0" := by decide +kernel
  have hheld : firstOfTwo.magazine.slotOf? "@0" = some 0 := by decide +kernel
  have hid : firstOfTwo.magazine.slotOf? "@1" = some 1 := by decide +kernel
  have hmount := Changer.planMount_of_homeMounted hs hm hheld hid (by decide)
  obtain ⟨after, p, hplan⟩ := Changer.exists_plan_next hmount (by rw [hothers]; simp)
  have hrefused : unwilling (.run p.program.fileName p.tag) = .error "protective stop" := rfl
  obtain ⟨hfirst, ⟨after', q, hagain, -, hsame⟩, -⟩ := refused_next_repeats_iff hplan hrefused
  rw [hothers] at hfirst hsame
  exact ⟨hothers, hd, after, p, hplan, hfirst, after', q, hagain, (hsame hd).mpr rfl⟩

/-- Two samples are loaded, and nothing is mounted. -/
def twoLoaded : Changer := (Changer.ofSize 2).run (loadOne ++ loadOne)

/-- The first sample is refused, and the command after that is for the second one. -/
theorem refused_next_skips_sample :
    Reached twoLoaded ∧ ∃ after p, twoLoaded.plan .next = (after, .ok (some p)) ∧
      p.sample = some "@0" ∧
      ∃ after q, (twoLoaded.step (.command .next unwilling)).plan .next
          = (after, .ok (some q)) ∧
        q.sample = some "@1" := by
  have hothers : twoLoaded.others = ["@0", "@1"] := by decide +kernel
  have hs : twoLoaded.state = .home := by decide +kernel
  have hid : twoLoaded.magazine.slotOf? "@0" = some 0 := by decide +kernel
  obtain ⟨after, p, hplan⟩ :=
    Changer.exists_plan_next (Changer.planMount_of_home hs hid) (by rw [hothers]; simp)
  have hrefused : unwilling (.run p.program.fileName p.tag) = .error "protective stop" := rfl
  obtain ⟨hturned, after', q, hagain⟩ := Changer.refused_next hplan hrefused
  have hfirst := Changer.sample_of_next hplan
  have hsecond := Changer.sample_of_next hagain
  rw [hothers] at hfirst hturned
  rw [hturned] at hsecond
  exact ⟨(Reached.empty 2).run _, after, p, hplan, hfirst, after', q, hagain, hsecond⟩

end Autosampler

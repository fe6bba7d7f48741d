import Autosampler.Proofs.Transitions
import Mathlib.Data.List.Basic
import Mathlib.Data.List.Induction

/-!
# A listener can follow the machine

A listener that was there before the first call sees every transition.  From what it noted since the
machine was last put into a state by force, it knows the present state and the present tag.

* `Took`, `Machine.took_of_step?` — what a single transition does to the machine;
* `Machine.fire_chain` — firing goes on with the mount that it leaves, as with any other event;
* `Machine.fire_first`, `Machine.fire_log_eq_nil_iff` — what comes first of an event that is allowed,
  and when nothing comes of it;
* `Machine.completesSwitch`, `Machine.Burst`, `Machine.burst_fire` — all that comes of a firing;
* `Route` — transitions in a row, each a listed move of its event;
* `Call`, `Watched`, `Watched.run` — calls of a machine with its listener;
* `Fresh`, `Watched.Follows`, `follows_run` — the notes since the machine was last put into a state;
* `listener_follows` — what the listener knows after any calls.
-/

namespace Autosampler

/-! ### Single transitions -/

/-- The machine took a single transition. -/
structure Took (m m' : Machine) (t : Transition) : Prop where
  source : t.source = m.state
  target : t.target = m'.state
  listed : (t.source, t.target) ∈ t.event.transitions
  tag : m'.tag = some t.tag
  count : m'.count = m.count + 1

namespace Machine

variable {m m' : Machine} {event : Event} {args : FireArgs} {t : Transition}
  {waiting : Option String}

theorem took_of_step? (h : m.step? event args = some (m', t, waiting)) : Took m m' t := by
  obtain ⟨target, htarget, hstep⟩ := Option.map_eq_some_iff.mp h
  have hlisted := Event.mem_transitions htarget
  dsimp only at hstep
  split at hstep
  all_goals
    cases hstep
    exact ⟨rfl, rfl, hlisted, rfl, rfl⟩

/-- A mount is left to follow exactly by a switch that has returned its sample. -/
theorem waiting_of_step? (h : m.step? event args = some (m', t, waiting)) :
    waiting = if event.target? m.state = some .homeSwitch then m.nextSample else none := by
  obtain ⟨target, htarget, hstep⟩ := Option.map_eq_some_iff.mp h
  rw [htarget]
  cases target <;> cases hstep <;> rfl

theorem state_of_step? (h : m.step? event args = some (m', t, waiting)) :
    event.target? m.state = some m'.state := by
  obtain ⟨target, htarget, hstep⟩ := Option.map_eq_some_iff.mp h
  rw [htarget]
  cases target <;> cases hstep <;> rfl

theorem transition_of_step? (h : m.step? event args = some (m', t, waiting)) :
    t = ⟨event, m.state, m'.state, args.tag.getD event.id, args.sample⟩ := by
  obtain ⟨target, htarget, hstep⟩ := Option.map_eq_some_iff.mp h
  cases target <;> cases hstep <;> rfl

/-! ### Firings -/

/-- The event completes a switch that remembers a sample. -/
def completesSwitch (m : Machine) (event : Event) : Prop :=
  event = .programFinished ∧ m.state = .unmountingSwitch ∧ m.nextSample.isSome

/-- Only the end of a program leads to `homeSwitch`, and only from a switch. -/
theorem target?_eq_homeSwitch {state : State} :
    event.target? state = some .homeSwitch ↔
      event = .programFinished ∧ state = .unmountingSwitch := by
  cases event <;> cases state <;> decide

/-- The mount that a transition leaves is fired like any other event. -/
theorem fire_chain {sample : String} (h : m.step? event args = some (m', t, some sample)) :
    m.fire event args
      = ⟨(m'.fire .mount ⟨some Event.mount.id, some sample⟩).machine,
          t :: (m'.fire .mount ⟨some Event.mount.id, some sample⟩).log,
          (m'.fire .mount ⟨some Event.mount.id, some sample⟩).outcome⟩ := by
  unfold fire
  rw [h]
  dsimp only
  cases hmount : m'.step? .mount ⟨some Event.mount.id, some sample⟩ with
  | none => rfl
  | some found =>
    obtain ⟨m₂, t₂, waiting⟩ := found
    have hnone : waiting = none := by
      rw [waiting_of_step? hmount, if_neg fun hswitch => ?_]
      cases (target?_eq_homeSwitch.mp hswitch).1
    rw [hnone]

/-- An allowed event first makes its own move, which is recorded with what the event carries. -/
theorem fire_first (args : FireArgs) {target : State} (h : event.target? m.state = some target) :
    ∃ more, (m.fire event args).log
      = ⟨event, m.state, target, args.tag.getD event.id, args.sample⟩ :: more := by
  cases hstep : m.step? event args with
  | none =>
    have hforbidden := Option.map_eq_none_iff.mp hstep
    rw [h] at hforbidden
    cases hforbidden
  | some found =>
    obtain ⟨m', t, waiting⟩ := found
    have htarget : target = m'.state := Option.some.inj (h.symm.trans (state_of_step? hstep))
    rw [htarget, ← transition_of_step? hstep]
    cases waiting with
    | none =>
      rw [fire, hstep]
      exact ⟨[], rfl⟩
    | some sample =>
      rw [fire_chain hstep]
      exact ⟨_, rfl⟩

/-- Nothing comes of an event exactly if it is not allowed. -/
theorem fire_log_eq_nil_iff : (m.fire event args).log = [] ↔ event.target? m.state = none := by
  constructor
  · intro hlog
    cases htarget : event.target? m.state with
    | none => rfl
    | some target =>
      obtain ⟨more, hfirst⟩ := fire_first args htarget
      rw [hlog] at hfirst
      cases hfirst
  · intro hforbidden
    rw [fire_refused hforbidden]

/-- All that can come of firing an event. -/
inductive Burst (m : Machine) (event : Event) : Fired → Prop
  | refused (forbidden : event.target? m.state = none) :
      Burst m event ⟨m, [], .error ⟨event, m.state⟩⟩
  | single {m' : Machine} {t : Transition} (took : Took m m' t)
      (plain : ¬m.completesSwitch event) : Burst m event ⟨m', [t], .ok m'.state⟩
  | double {m₁ m₂ : Machine} {t₁ t₂ : Transition} (first : Took m m₁ t₁) (second : Took m₁ m₂ t₂)
      (switch : m.completesSwitch event) : Burst m event ⟨m₂, [t₁, t₂], .ok m₂.state⟩

theorem burst_fire (m : Machine) (event : Event) (args : FireArgs) :
    Burst m event (m.fire event args) := by
  cases hstep : m.step? event args with
  | none =>
    have hforbidden := Option.map_eq_none_iff.mp hstep
    rw [fire_refused hforbidden]
    exact .refused hforbidden
  | some found =>
    obtain ⟨m₁, t₁, waiting⟩ := found
    have hwaiting := waiting_of_step? hstep
    cases waiting with
    | none =>
      have hfire : m.fire event args = ⟨m₁, [t₁], .ok m₁.state⟩ := by rw [fire, hstep]
      rw [hfire]
      refine .single (took_of_step? hstep) fun hswitch => ?_
      rw [if_pos (target?_eq_homeSwitch.mpr ⟨hswitch.1, hswitch.2.1⟩)] at hwaiting
      exact absurd hswitch.2.2 (by simp [← hwaiting])
    | some sample =>
      split at hwaiting
      · rename_i hhome
        obtain ⟨hevent, hstate⟩ := target?_eq_homeSwitch.mp hhome
        -- at `homeSwitch` the mount cannot be refused
        have hreached : m₁.state = .homeSwitch :=
          Option.some.inj ((state_of_step? hstep).symm.trans hhome)
        have htarget : Event.mount.target? m₁.state = some .mounting := by
          rw [hreached]
          rfl
        have hmount : m₁.step? .mount ⟨some Event.mount.id, some sample⟩ = _ :=
          step?_of_target htarget (by decide)
        rw [fire_chain hstep, fire_of_target htarget (by decide)]
        exact .double (took_of_step? hstep) (took_of_step? hmount)
          ⟨hevent, hstate, by rw [← hwaiting]; rfl⟩
      · cases hwaiting

end Machine

/-! ### Routes -/

/-- Transitions in a row: each of them is a listed move of its event and starts where the one before
it ended. -/
inductive Route : State → List Transition → State → Prop
  | nil (s : State) : Route s [] s
  | cons {t : Transition} {ts : List Transition} {last : State}
      (listed : (t.source, t.target) ∈ t.event.transitions) (rest : Route t.target ts last) :
      Route t.source (t :: ts) last

namespace Route

variable {first middle last : State} {ts us : List Transition}

theorem append (h : Route first ts middle) (h' : Route middle us last) :
    Route first (ts ++ us) last := by
  induction h with
  | nil => exact h'
  | cons listed _ ih => exact .cons listed (ih h')

theorem single {m m' : Machine} {t : Transition} (h : Took m m' t) :
    Route m.state [t] m'.state := by
  rw [← h.source, ← h.target]
  exact .cons h.listed (.nil _)

end Route

namespace Machine.Burst

variable {m : Machine} {event : Event} {fired : Fired}

theorem route (h : m.Burst event fired) : Route m.state fired.log fired.machine.state := by
  cases h with
  | refused => exact .nil _
  | single took => exact .single took
  | double first second => exact (Route.single first).append (.single second)

theorem tag (h : m.Burst event fired) :
    fired.machine.tag = (fired.log.getLast?.map Transition.tag).or m.tag := by
  cases h with
  | refused => rfl
  | single took => exact took.tag
  | double _ second => exact second.tag

theorem count (h : m.Burst event fired) :
    fired.machine.count = m.count + fired.log.length := by
  cases h with
  | refused => rfl
  | single took => exact took.count
  | double first second =>
    rw [second.count, first.count]
    rfl

/-- An event that is refused is not logged, and the machine stays as it is. -/
theorem log_eq_nil (h : m.Burst event fired) :
    (fired.log = [] ↔ ∃ refusal, fired.outcome = .error refusal) ∧
      (fired.log = [] → fired.machine = m) := by
  cases h with
  | refused => exact ⟨⟨fun _ => ⟨_, rfl⟩, fun _ => rfl⟩, fun _ => rfl⟩
  | single | double => exact ⟨⟨nofun, fun ⟨_, h⟩ => nomatch h⟩, nofun⟩

/-- An event that is taken is one transition, or two if it completes a switch. -/
theorem log_length (h : m.Burst event fired) :
    (fired.log.length = 2 ↔ m.completesSwitch event) ∧
      (fired.log ≠ [] → ¬m.completesSwitch event → fired.log.length = 1) := by
  cases h with
  | refused forbidden =>
    refine ⟨⟨nofun, fun hswitch => ?_⟩, fun hlog => absurd rfl hlog⟩
    rw [target?_eq_homeSwitch.mpr ⟨hswitch.1, hswitch.2.1⟩] at forbidden
    cases forbidden
  | single _ plain => exact ⟨⟨nofun, fun hswitch => absurd hswitch plain⟩, fun _ _ => rfl⟩
  | double _ _ switch => exact ⟨⟨fun _ => switch, fun _ => rfl⟩, fun _ h => absurd switch h⟩

theorem outcome_state (h : m.Burst event fired) {state : State} (ho : fired.outcome = .ok state) :
    fired.machine.state = state := by
  cases h with
  | refused => cases ho
  | single | double => exact Except.ok.inj ho

end Machine.Burst

/-! ### A machine and its listener -/

/-- A call of the machine. -/
inductive Call where
  | fire (event : Event) (args : FireArgs)
  | restore (state : State)

/-- The call puts the machine into a state by force. -/
def Call.restores : Call → Bool
  | .fire _ _ => false
  | .restore _ => true

/-- A machine, and what its listener has noted so far. -/
structure Watched where
  machine : Machine
  notes : List Transition

namespace Watched

/-- A new machine, whose listener has seen nothing yet. -/
def start : Watched := ⟨Machine.start, []⟩

/-- A call: what is reported to the listener is noted. -/
def call (w : Watched) : Call → Watched
  | .fire event args =>
    let fired := w.machine.fire event args
    ⟨fired.machine, w.notes ++ (Transition.reports [()] fired.log).map Prod.snd⟩
  | .restore state => ⟨w.machine.restore state, w.notes⟩

/-- Calls, one after the other. -/
def run (w : Watched) (calls : List Call) : Watched := calls.foldl call w

variable {w : Watched} {earlier since calls : List Call} {origin : State}

/-- A listener is told of all transitions in order. -/
theorem reports_alone (log : List Transition) :
    (Transition.reports [()] log).map Prod.snd = log := by
  induction log with
  | nil => rfl
  | cons t log ih => exact congrArg (t :: ·) ih

theorem run_concat (w : Watched) (calls : List Call) (c : Call) :
    w.run (calls ++ [c]) = (w.run calls).call c := List.foldl_concat ..

/-! ### Notes since the last forced state -/

/-- Behind these calls, a route begins in `origin`: the machine is new, or it was just put there. -/
inductive Fresh : List Call → State → Prop
  | start : Fresh [] .home
  | restored (earlier : List Call) (state : State) : Fresh (earlier ++ [.restore state]) state

/-- The listener follows the machine: what it noted since the last forced state is a route to the
present state, and the last tag on it is the present tag. -/
structure Follows (earlier since : List Call) (origin : State) (path : List Transition)
    (w : Watched) : Prop where
  fresh : Fresh earlier origin
  fires : ∀ c ∈ since, c.restores = false
  notes : w.notes = (start.run earlier).notes ++ path
  route : Route origin path w.machine.state
  tag : w.machine.tag = path.getLast?.map Transition.tag

variable {path : List Transition}

theorem Follows.fire (h : Follows earlier since origin path w) (event : Event) (args : FireArgs) :
    Follows earlier (since ++ [.fire event args]) origin
      (path ++ (w.machine.fire event args).log) (w.call (.fire event args)) where
  fresh := h.fresh
  fires c hmem := by
    rcases List.mem_append.mp hmem with hmem | hmem
    · exact h.fires c hmem
    · rw [List.mem_singleton.mp hmem]
      rfl
  notes := by
    show w.notes ++ (Transition.reports [()] _).map Prod.snd = _
    rw [reports_alone, h.notes, List.append_assoc]
  route := h.route.append (Machine.burst_fire w.machine event args).route
  tag := by
    show (w.machine.fire event args).machine.tag = _
    rw [(Machine.burst_fire w.machine event args).tag, h.tag, List.getLast?_append, Option.map_or]

theorem Follows.restore (calls : List Call) (state : State) :
    Follows (calls ++ [.restore state]) [] state [] (start.run (calls ++ [.restore state])) where
  fresh := .restored calls state
  fires _ hmem := absurd hmem List.not_mem_nil
  notes := (List.append_nil _).symm
  route := by
    rw [run_concat]
    exact .nil state
  tag := by
    rw [run_concat]
    rfl

/-- The calls after the last forced state are the ones that the notes are about. -/
theorem follows_run (calls : List Call) :
    ∃ earlier since origin path,
      calls = earlier ++ since ∧ Follows earlier since origin path (start.run calls) := by
  induction calls using List.reverseRecOn with
  | nil => exact ⟨[], [], .home, [], rfl, .start, fun _ h => absurd h List.not_mem_nil, rfl,
      .nil _, rfl⟩
  | append_singleton calls c ih =>
    cases c with
    | fire event args =>
      obtain ⟨earlier, since, origin, path, hcalls, hfollows⟩ := ih
      have hlonger : calls ++ [.fire event args] = earlier ++ (since ++ [.fire event args]) := by
        rw [hcalls, List.append_assoc]
      rw [run_concat]
      exact ⟨earlier, _, origin, _, hlonger, hfollows.fire event args⟩
    | restore state =>
      exact ⟨_, [], state, [], (List.append_nil _).symm, Follows.restore calls state⟩

theorem count_run (calls : List Call) :
    (start.run calls).machine.count
      = (start.run calls).notes.length + calls.countP Call.restores := by
  induction calls using List.reverseRecOn with
  | nil => rfl
  | append_singleton calls c ih =>
    rw [run_concat, List.countP_append]
    cases c with
    | fire event args =>
      have hcount := (Machine.burst_fire (start.run calls).machine event args).count
      have hnone : [Call.fire event args].countP Call.restores = 0 := rfl
      simp only [call, reports_alone, List.length_append, hcount, ih, hnone]
      omega
    | restore state =>
      have hone : [Call.restore state].countP Call.restores = 1 := rfl
      simp only [call, Machine.restore, ih, hone]
      omega

end Watched

/-- **A listener can follow the machine.**  A new machine has one listener, and any calls are made.
What the listener noted since the machine was last put into a state by force, or from the start, is
a route from that state to the present one, and its last tag is the present tag; there is no tag if
it noted nothing.  The machine counts what was noted and how often it was put into a state.  A
firing notes nothing exactly if the event has no move from the present state, and this is the
refusal, which names the event and the state and leaves the machine as it is; else the first note is
the event's own move.  A firing notes two transitions exactly if it completes a switch that remembers
a sample, and else one; and it answers with the state that the machine is in. -/
theorem listener_follows (calls : List Call) :
    let w := Watched.start.run calls
    (∃ earlier since origin path,
        calls = earlier ++ since ∧ Watched.Follows earlier since origin path w) ∧
      w.machine.count = w.notes.length + calls.countP Call.restores ∧
      ∀ event args,
        let fired := w.machine.fire event args
        ((fired.log = [] ↔ ∃ refusal, fired.outcome = .error refusal) ∧
            (fired.log = [] → fired.machine = w.machine)) ∧
          ((fired.log = [] ↔ event.target? w.machine.state = none) ∧
            (fired.log = [] → fired.outcome = .error ⟨event, w.machine.state⟩) ∧
            ∀ target, event.target? w.machine.state = some target →
              ∃ more, fired.log = ⟨event, w.machine.state, target, args.tag.getD event.id,
                args.sample⟩ :: more) ∧
          ((fired.log.length = 2 ↔ w.machine.completesSwitch event) ∧
            (fired.log ≠ [] → ¬w.machine.completesSwitch event → fired.log.length = 1)) ∧
          ∀ state, fired.outcome = .ok state → fired.machine.state = state := by
  refine ⟨Watched.follows_run calls, Watched.count_run calls, fun event args => ?_⟩
  have hburst := Machine.burst_fire (Watched.start.run calls).machine event args
  refine ⟨hburst.log_eq_nil, ⟨Machine.fire_log_eq_nil_iff, fun hlog => ?_,
    fun _ htarget => Machine.fire_first args htarget⟩, hburst.log_length, fun _ => hburst.outcome_state⟩
  rw [Machine.fire_refused (Machine.fire_log_eq_nil_iff.mp hlog)]

/-- A sample is mounted, and a switch to another one is under way. -/
def switchCalls : List Call :=
  [.fire .mount ⟨none, some "a"⟩, .fire .programFinished {}, .fire .mount ⟨none, some "b"⟩]

/-- The end of the program is accepted and goes on with the mount of the other sample; a load is
refused. -/
theorem listener_follows_switch :
    let w := Watched.start.run switchCalls
    let fired := w.machine.fire .programFinished {}
    let refused := w.machine.fire .load {}
    w.notes.length = 3 ∧ w.machine.count = 3 ∧ w.machine.tag = some "mount" ∧
      fired.log.length = 2 ∧ fired.outcome = .ok .mounting ∧ fired.machine.state = .mounting ∧
      refused.log = [] ∧ refused.machine = w.machine ∧
      refused.outcome = .error ⟨.load, .unmountingSwitch⟩ := by
  intro w fired refused
  obtain ⟨-, hcount, hfirings⟩ := listener_follows switchCalls
  obtain ⟨-, -, ⟨hdouble, -⟩, hreached⟩ := hfirings .programFinished {}
  obtain ⟨⟨-, hkept⟩, ⟨hforbidden, hrefusal, -⟩, -, -⟩ := hfirings .load {}
  have hnotes : w.notes.length = 3 := rfl
  have hrestored : switchCalls.countP Call.restores = 0 := rfl
  have hswitch : w.machine.completesSwitch .programFinished := ⟨rfl, rfl, rfl⟩
  have hlog : refused.log = [] := hforbidden.mpr rfl
  rw [hnotes, hrestored] at hcount
  exact ⟨hnotes, hcount, rfl, hdouble.mpr hswitch, rfl, hreached .mounting rfl, hlog, hkept hlog,
    hrefusal hlog⟩

end Autosampler

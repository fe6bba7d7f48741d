import Autosampler.Bus
import Mathlib.Data.List.Induction

/-!
# Who is called

Everyone on the bus is called once for all that is meant for him, in the order in which they came,
whatever becomes of the calls before.  Who was called shows in a journal: every handler and every
listener has a name, and under this name it notes what it was told and how its call ended.

* `Notice`, `CallNote` — what is told, and a call as it is noted;
* `Handler.journaled`, `SlotListener.journaled` — who notes his calls;
* `callNotes`, `Bus.callHandlers_journaled`, `foldl_journaled` — the notes of a row of calls;
* `Bus.Use`, `Bus.InUse`, `Bus.after` — a bus with users who keep the numbers that they were given;
* `Bus.registered`, `Bus.standing`, `Bus.mem_standing_iff` — the entries, and the subscriptions that
  were not given back;
* `Bus.InUse.Holds`, `Bus.holds_step`, `Bus.holds_run` — the tables after any use;
* `everyone_called_once` — all calls.
-/

namespace Autosampler

variable {ν σ τ α β : Type}

/-! ### Calls that are noted -/

/-- What is told to someone on the bus. -/
inductive Notice where
  | acknowledged (text : Option String)
  | identified (slot : Nat) (id : String)
  | presence (slot : Nat) (present : Bool)
deriving DecidableEq

/-- A call: who was called, what he was told, and how the call ended. -/
structure CallNote (ν : Type) where
  name : ν
  notice : Notice
  ending : Ending
deriving DecidableEq

/-- Who was called, and what he was told. -/
def CallNote.call (note : CallNote ν) : ν × Notice := (note.name, note.notice)

/-- The call did not end well. -/
def CallNote.isBad (note : CallNote ν) : Bool := note.ending ≠ .done

/-- A handler that notes its calls under a name. -/
def Handler.journaled (name : ν) (h : Handler σ) : Handler (σ × List (CallNote ν)) where
  outcome := h.outcome
  tag := h.tag
  act s text :=
    let (after, ending) := h.act s.1 text
    ((after, s.2 ++ [⟨name, .acknowledged text, ending⟩]), ending)

theorem Handler.journaled_act (name : ν) (h : Handler σ) (s : σ) (journal : List (CallNote ν))
    (text : Option String) :
    (h.journaled name).act (s, journal) text
      = (((h.act s text).1, journal ++ [⟨name, .acknowledged text, (h.act s text).2⟩]),
          (h.act s text).2) := rfl

/-- A listener that notes its calls under a name. -/
def SlotListener.journaled (name : ν) (l : SlotListener σ) :
    SlotListener (σ × List (CallNote ν)) where
  identified s slot id :=
    let (after, ending) := l.identified s.1 slot id
    ((after, s.2 ++ [⟨name, .identified slot id, ending⟩]), ending)
  presence s slot present :=
    let (after, ending) := l.presence s.1 slot present
    ((after, s.2 ++ [⟨name, .presence slot present, ending⟩]), ending)

/-- The notes of a row of calls, each in the state that the call before it left. -/
def callNotes (notice : Notice) (react : α → σ → σ × Ending) : List (ν × α) → σ → List (CallNote ν)
  | [], _ => []
  | entry :: row, s =>
    ⟨entry.1, notice, (react entry.2 s).2⟩ :: callNotes notice react row (react entry.2 s).1

theorem callNotes_call (notice : Notice) (react : α → σ → σ × Ending) (row : List (ν × α)) (s : σ) :
    (callNotes notice react row s).map CallNote.call = row.map fun entry => (entry.1, notice) := by
  induction row generalizing s with
  | nil => rfl
  | cons entry row ih => exact congrArg _ (ih _)

/-- Calls one after the other, with a journal and without. -/
theorem foldl_journaled (notice : Notice) (react : α → σ → σ × Ending)
    (noting : ν → α → σ × List (CallNote ν) → σ × List (CallNote ν))
    (hnoting : ∀ name a s journal, noting name a (s, journal)
      = ((react a s).1, journal ++ [⟨name, notice, (react a s).2⟩]))
    (row : List (ν × α)) (s : σ) (journal : List (CallNote ν)) :
    row.foldl (fun state entry => noting entry.1 entry.2 state) (s, journal)
      = (row.foldl (fun state entry => (react entry.2 state).1) s,
          journal ++ callNotes notice react row s) := by
  induction row generalizing s journal with
  | nil => rw [callNotes, List.append_nil, List.foldl_nil, List.foldl_nil]
  | cons entry row ih =>
    rw [List.foldl_cons, hnoting, ih, List.append_assoc]
    rfl

namespace Bus

theorem callHandlers_journaled (text : Option String) (row : List (ν × Handler σ)) (s : σ)
    (journal : List (CallNote ν)) :
    callHandlers text (row.map fun entry => entry.2.journaled entry.1) (s, journal)
      = (((callHandlers text (row.map Prod.snd) s).1,
            journal ++ callNotes (.acknowledged text) (fun h state => h.act state text) row s),
          (callHandlers text (row.map Prod.snd) s).2) := by
  induction row generalizing s journal with
  | nil => rw [callNotes, List.append_nil]; rfl
  | cons entry row ih =>
    simp only [List.map_cons, callHandlers, callNotes, Handler.journaled_act, ih,
      List.append_assoc, List.singleton_append]

/-- The report counts the notes, and among them the calls that did not end well. -/
theorem callHandlers_report (text : Option String) (row : List (ν × Handler σ)) (s : σ) :
    let notes := callNotes (.acknowledged text) (fun h state => h.act state text) row s
    (callHandlers text (row.map Prod.snd) s).2 = ⟨notes.length, notes.countP CallNote.isBad⟩ := by
  induction row generalizing s with
  | nil => rfl
  | cons entry row ih =>
    simp only [List.map_cons, callHandlers, callNotes, List.length_cons, List.countP_cons, ih]
    cases hending : (entry.2.act s text).2 <;> simp [CallNote.isBad]

/-! ### A bus and its users -/

/-- How handlers and listeners with names go onto the bus. -/
structure Guise (ν σ τ : Type) where
  handler : ν → Handler σ → Handler τ
  listener : ν → SlotListener σ → SlotListener τ

/-- As they are. -/
def Guise.plain : Guise ν σ σ := ⟨fun _ h => h, fun _ l => l⟩

/-- So that they note their calls. -/
def Guise.journaled : Guise ν σ (σ × List (CallNote ν)) :=
  ⟨Handler.journaled, SlotListener.journaled⟩

/-- What is done with a bus.  Whoever gets a number keeps it, and tells it apart from the others by
its place among all numbers that were given out. -/
inductive Use (ν σ : Type) where
  | register (entries : List (ν × Handler σ))
  | subscribe (name : ν) (listener : SlotListener σ)
  /-- Another bus gives out a number; all buses take them from one row. -/
  | elsewhere
  /-- The number at a place is used to unsubscribe, perhaps not for the first time. -/
  | unsubscribe (place : Nat)

/-- A bus with the numbers that were given out. -/
structure InUse (τ : Type) where
  bus : Bus τ := {}
  numbers : List Nat := []

/-- Use the bus.  Nobody has a number that was not given out. -/
def InUse.step (guise : Guise ν σ τ) (u : InUse τ) : Use ν σ → InUse τ
  | .register entries =>
    { u with bus := u.bus.register (entries.map fun entry => guise.handler entry.1 entry.2) }
  | .subscribe name listener =>
    let (bus, number) := u.bus.subscribe (guise.listener name listener)
    ⟨bus, u.numbers ++ [number]⟩
  | .elsewhere =>
    ⟨{ u.bus with nextNumber := u.bus.nextNumber + 1 }, u.numbers ++ [u.bus.nextNumber]⟩
  | .unsubscribe place =>
    match u.numbers[place]? with
    | some number => { u with bus := u.bus.unsubscribe number }
    | none => u

/-- The bus after any use. -/
def after (guise : Guise ν σ τ) (uses : List (Use ν σ)) : Bus τ :=
  (uses.foldl (InUse.step guise) {}).bus

/-! ### Entries and subscriptions -/

namespace Use

/-- The entries that are registered. -/
def entries : Use ν σ → List (ν × Handler σ)
  | register entries => entries
  | _ => []

/-- A number is given out. -/
def givesNumber : Use ν σ → Bool
  | subscribe _ _ | elsewhere => true
  | _ => false

/-- The number at the place is used to unsubscribe. -/
def returns (place : Nat) : Use ν σ → Bool
  | unsubscribe returned => returned = place
  | _ => false

end Use

/-- All entries, in the order in which they were registered. -/
def registered (uses : List (Use ν σ)) : List (ν × Handler σ) := uses.flatMap Use.entries

/-- How many numbers were given out. -/
def numbersGiven (uses : List (Use ν σ)) : Nat := uses.countP Use.givesNumber

/-- A subscription: the place of its number, and who subscribed. -/
structure Subscription (ν σ : Type) where
  place : Nat
  name : ν
  listener : SlotListener σ

/-- The subscriptions that are not given back later, in the order in which they were made, if so
many numbers were given out before. -/
def standing : Nat → List (Use ν σ) → List (Subscription ν σ)
  | _, [] => []
  | before, .subscribe name listener :: uses =>
    if uses.any (Use.returns before) then standing (before + 1) uses
    else ⟨before, name, listener⟩ :: standing (before + 1) uses
  | before, .elsewhere :: uses => standing (before + 1) uses
  | before, .register _ :: uses => standing before uses
  | before, .unsubscribe _ :: uses => standing before uses

/-- The subscription was made, and it was not given back after that. -/
def Stands (uses : List (Use ν σ)) (before : Nat) (sub : Subscription ν σ) : Prop :=
  ∃ earlier later, uses = earlier ++ .subscribe sub.name sub.listener :: later ∧
    before + numbersGiven earlier = sub.place ∧ later.any (Use.returns sub.place) = false

section Standing

variable {uses : List (Use ν σ)} {before : Nat} {sub : Subscription ν σ}

theorem numbersGiven_append (earlier later : List (Use ν σ)) :
    numbersGiven (earlier ++ later) = numbersGiven earlier + numbersGiven later :=
  List.countP_append

theorem numbersGiven_cons {use : Use ν σ} (h : use.givesNumber = true) (uses : List (Use ν σ)) :
    numbersGiven (use :: uses) = numbersGiven uses + 1 :=
  List.countP_cons_of_pos h

theorem numbersGiven_snoc {use : Use ν σ} (h : use.givesNumber = true) (uses : List (Use ν σ)) :
    numbersGiven (uses ++ [use]) = numbersGiven uses + 1 := by
  rw [numbersGiven_append, numbersGiven_cons h]
  rfl

theorem numbersGiven_kept {use : Use ν σ} (h : use.givesNumber = false) (uses : List (Use ν σ)) :
    numbersGiven (uses ++ [use]) = numbersGiven uses := by
  rw [numbersGiven_append, numbersGiven, numbersGiven, List.countP_singleton, h]
  rfl

/-- Later uses only take subscriptions away and add their own. -/
theorem standing_append (before : Nat) (earlier later : List (Use ν σ)) :
    standing before (earlier ++ later)
      = (standing before earlier).filter (fun sub => !later.any (Use.returns sub.place))
        ++ standing (before + numbersGiven earlier) later := by
  induction earlier generalizing before with
  | nil => rfl
  | cons use earlier ih =>
    cases use with
    | register entries => exact ih before
    | unsubscribe place => exact ih before
    | elsewhere =>
      rw [numbersGiven_cons rfl, Nat.add_comm (numbersGiven earlier), ← Nat.add_assoc]
      exact ih (before + 1)
    | subscribe name listener =>
      rw [numbersGiven_cons rfl, Nat.add_comm (numbersGiven earlier), ← Nat.add_assoc,
        List.cons_append, standing, standing, ih, List.any_append]
      by_cases hearlier : earlier.any (Use.returns before) = true
      · simp [hearlier]
      · by_cases hlater : later.any (Use.returns before) = true
        · simp [hearlier, hlater]
        · simp [hearlier, hlater]

theorem registered_snoc (uses : List (Use ν σ)) (use : Use ν σ) :
    registered (uses ++ [use]) = registered uses ++ use.entries := by
  rw [registered, List.flatMap_append, List.flatMap_singleton, registered]

theorem registered_kept {use : Use ν σ} (h : use.entries = []) (uses : List (Use ν σ)) :
    registered (uses ++ [use]) = registered uses := by
  rw [registered_snoc, h, List.append_nil]

theorem standing_snoc {use : Use ν σ} (h : ∀ place, use.returns place = false) :
    standing before (uses ++ [use])
      = standing before uses ++ standing (before + numbersGiven uses) [use] := by
  rw [standing_append, List.filter_eq_self.mpr]
  intro sub _
  rw [List.any_cons, h, List.any_nil]
  rfl

/-- Who unsubscribes takes his own subscription away and no other. -/
theorem standing_unsubscribe (place : Nat) :
    standing before (uses ++ [.unsubscribe place])
      = (standing before uses).filter fun sub => sub.place ≠ place := by
  rw [standing_append, standing, standing, List.append_nil]
  refine List.filter_congr fun sub _ => ?_
  simp [Use.returns, eq_comm]

theorem stands_cons {use : Use ν σ} {k : Nat} (h : Stands uses (before + k) sub)
    (hk : numbersGiven [use] = k) : Stands (use :: uses) before sub := by
  obtain ⟨earlier, later, huses, hplace, hlater⟩ := h
  refine ⟨use :: earlier, later, by rw [huses, List.cons_append], ?_, hlater⟩
  rw [← List.singleton_append, numbersGiven_append, hk, ← Nat.add_assoc, hplace]

theorem stands_of_mem (h : sub ∈ standing before uses) : Stands uses before sub := by
  induction uses generalizing before with
  | nil => cases h
  | cons use uses ih =>
    cases use with
    | register entries => exact stands_cons (k := 0) (ih h) rfl
    | unsubscribe place => exact stands_cons (k := 0) (ih h) rfl
    | elsewhere => exact stands_cons (ih h) rfl
    | subscribe name listener =>
      rw [standing] at h
      split at h
      · exact stands_cons (ih h) rfl
      · rename_i hkept
        rcases List.mem_cons.mp h with rfl | hmem
        · exact ⟨[], uses, rfl, rfl, Bool.not_eq_true _ ▸ hkept⟩
        · exact stands_cons (ih hmem) rfl

/-- The standing subscriptions are those that were made and not given back. -/
theorem mem_standing_iff : sub ∈ standing before uses ↔ Stands uses before sub := by
  refine ⟨stands_of_mem, ?_⟩
  rintro ⟨earlier, later, rfl, hplace, hlater⟩
  rw [standing_append, standing, hplace, hlater, if_neg Bool.false_ne_true]
  exact List.mem_append_right _ List.mem_cons_self

theorem place_of_mem (h : sub ∈ standing before uses) :
    before ≤ sub.place ∧ sub.place < before + numbersGiven uses := by
  obtain ⟨earlier, later, rfl, hplace, -⟩ := stands_of_mem h
  rw [numbersGiven_append, numbersGiven_cons rfl]
  omega

/-- No subscription stands twice, and the earlier one comes first. -/
theorem standing_increasing (before : Nat) (uses : List (Use ν σ)) :
    (standing before uses).Pairwise fun sub other => sub.place < other.place := by
  induction uses generalizing before with
  | nil => exact List.Pairwise.nil
  | cons use uses ih =>
    cases use with
    | register entries => exact ih before
    | unsubscribe place => exact ih before
    | elsewhere => exact ih (before + 1)
    | subscribe name listener =>
      rw [standing]
      split
      · exact ih (before + 1)
      · exact List.pairwise_cons.mpr ⟨fun other hmem => (place_of_mem hmem).1, ih (before + 1)⟩

end Standing

/-! ### The tables after any use -/

/-- The tables hold what was registered and what stands. -/
structure InUse.Holds (guise : Guise ν σ τ) (uses : List (Use ν σ)) (u : InUse τ) : Prop where
  next : u.bus.nextNumber = numbersGiven uses
  numbers : u.numbers = List.range (numbersGiven uses)
  handlers : u.bus.handlers
    = (registered uses).map fun entry => guise.handler entry.1 entry.2
  listeners : u.bus.listeners
    = (standing 0 uses).map fun sub => (sub.place, guise.listener sub.name sub.listener)

section Step

variable {guise : Guise ν σ τ} {uses : List (Use ν σ)} {u : InUse τ}

/-- A number that is given out is the next, and it is kept at the next place. -/
theorem InUse.Holds.given (h : u.Holds guise uses) (use : Use ν σ) (huse : use.givesNumber = true) :
    u.bus.nextNumber + 1 = numbersGiven (uses ++ [use]) ∧
      u.numbers ++ [u.bus.nextNumber] = List.range (numbersGiven (uses ++ [use])) := by
  rw [numbersGiven_snoc huse, List.range_succ, h.numbers, h.next]
  exact ⟨rfl, rfl⟩

/-- The number that is used to unsubscribe is the one of this place, if anybody has it. -/
theorem InUse.Holds.unsubscribed (h : u.Holds guise uses) (place : Nat) :
    (u.step guise (.unsubscribe place)).bus.listeners
      = u.bus.listeners.filter fun entry => entry.1 ≠ place := by
  by_cases hplace : place < numbersGiven uses
  · have hnumber : u.numbers[place]? = some place := by
      rw [h.numbers, List.getElem?_range hplace]
    rw [InUse.step, hnumber]
    rfl
  · -- nobody has a number from this place
    have hnumber : u.numbers[place]? = none := by
      rw [h.numbers, List.getElem?_eq_none (by rw [List.length_range]; omega)]
    rw [InUse.step, hnumber, h.listeners, List.filter_eq_self.mpr]
    intro entry hmem
    obtain ⟨sub, hsub, rfl⟩ := List.mem_map.mp hmem
    have hlt := (place_of_mem hsub).2
    exact decide_eq_true (by omega)

/-- One use is one step of the tables. -/
theorem holds_step (h : u.Holds guise uses) (use : Use ν σ) :
    (u.step guise use).Holds guise (uses ++ [use]) := by
  cases use with
  | register entries =>
    have hkept : numbersGiven (uses ++ [.register entries]) = numbersGiven uses :=
      numbersGiven_kept rfl uses
    refine ⟨h.next.trans hkept.symm, h.numbers.trans (congrArg _ hkept.symm), ?_, ?_⟩
    · rw [registered_snoc, List.map_append, ← h.handlers]
      rfl
    · rw [standing_snoc fun _ => rfl, standing, standing, List.append_nil, ← h.listeners]
      rfl
  | subscribe name listener =>
    obtain ⟨hnext, hnumbers⟩ := h.given (.subscribe name listener) rfl
    refine ⟨hnext, hnumbers, ?_, ?_⟩
    · rw [registered_kept rfl, ← h.handlers]
      rfl
    · rw [standing_snoc fun _ => rfl, List.map_append, ← h.listeners, Nat.zero_add, ← h.next]
      rfl
  | elsewhere =>
    obtain ⟨hnext, hnumbers⟩ := h.given .elsewhere rfl
    refine ⟨hnext, hnumbers, ?_, ?_⟩
    · rw [registered_kept rfl, ← h.handlers]
      rfl
    · rw [standing_snoc fun _ => rfl, standing, standing, List.append_nil, ← h.listeners]
      rfl
  | unsubscribe place =>
    have hlisteners := h.unsubscribed place
    have hrest : (u.step guise (.unsubscribe place)).bus.nextNumber = u.bus.nextNumber ∧
        (u.step guise (.unsubscribe place)).numbers = u.numbers ∧
        (u.step guise (.unsubscribe place)).bus.handlers = u.bus.handlers := by
      rw [InUse.step]
      split <;> exact ⟨rfl, rfl, rfl⟩
    obtain ⟨hnext, hnumbers, hhandlers⟩ := hrest
    have hkept : numbersGiven (uses ++ [.unsubscribe place]) = numbersGiven uses :=
      numbersGiven_kept rfl uses
    refine ⟨?_, ?_, ?_, ?_⟩
    · rw [hnext, h.next, hkept]
    · rw [hnumbers, h.numbers, hkept]
    · rw [hhandlers, h.handlers, registered_kept rfl]
    · rw [hlisteners, h.listeners, standing_unsubscribe, List.filter_map]
      rfl

end Step

/-- The tables after any use. -/
theorem holds_run (guise : Guise ν σ τ) (uses : List (Use ν σ)) :
    (uses.foldl (InUse.step guise) {}).Holds guise uses := by
  induction uses using List.reverseRecOn with
  | nil => exact ⟨rfl, rfl, rfl, rfl⟩
  | append_singleton uses use ih =>
    rw [List.foldl_append]
    exact holds_step ih use

section After

variable (guise : Guise ν σ τ) (uses : List (Use ν σ))

theorem after_handlers :
    (after guise uses).handlers = (registered uses).map fun entry => guise.handler entry.1 entry.2 :=
  (holds_run guise uses).handlers

theorem after_listeners :
    (after guise uses).listeners
      = (standing 0 uses).map fun sub => (sub.place, guise.listener sub.name sub.listener) :=
  (holds_run guise uses).listeners

end After

section Dispatch

variable (uses : List (Use ν σ)) (s : σ)

/-- The entries that are meant by an acknowledgement. -/
def meant (outcome : Outcome) (tag : String) (uses : List (Use ν σ)) : List (ν × Handler σ) :=
  (registered uses).filter fun entry => entry.2.outcome = outcome ∧ entry.2.tag = tag

/-- The calls of an acknowledgement. -/
theorem dispatch_after (outcome : Outcome) (tag : String) (text : Option String) :
    let notes := callNotes (.acknowledged text) (fun h state => h.act state text)
      (meant outcome tag uses) s
    let told := (after .plain uses).dispatch s outcome tag text
    (after .journaled uses).dispatch (s, []) outcome tag text = ((told.1, notes), told.2) ∧
      told.2 = ⟨notes.length, notes.countP CallNote.isBad⟩ := by
  intro notes told
  have htold : told = callHandlers text ((meant outcome tag uses).map Prod.snd) s := by
    show (after .plain uses).dispatch s outcome tag text = _
    rw [dispatch, after_handlers, List.filter_map]
    rfl
  have hwatched : (after .journaled uses).dispatch (s, []) outcome tag text
      = callHandlers text ((meant outcome tag uses).map fun entry => entry.2.journaled entry.1)
          (s, []) := by
    rw [dispatch, after_handlers, List.filter_map]
    rfl
  rw [hwatched, callHandlers_journaled, List.nil_append, htold]
  exact ⟨rfl, callHandlers_report text _ s⟩

/-- The names and listeners of the standing subscriptions. -/
def subscribers (uses : List (Use ν σ)) : List (ν × SlotListener σ) :=
  (standing 0 uses).map fun sub => (sub.name, sub.listener)

/-- The calls of all listeners, whatever it is that they are told. -/
theorem listeners_after (notice : Notice) (react : SlotListener σ → σ → σ × Ending)
    (watched : SlotListener (σ × List (CallNote ν)) → σ × List (CallNote ν) →
      (σ × List (CallNote ν)) × Ending)
    (hwatched : ∀ name l s journal, (watched (SlotListener.journaled name l) (s, journal)).1
      = ((react l s).1, journal ++ [⟨name, notice, (react l s).2⟩])) :
    (after .journaled uses).listeners.foldl (fun state entry => (watched entry.2 state).1) (s, [])
      = ((after .plain uses).listeners.foldl (fun state entry => (react entry.2 state).1) s,
          callNotes notice react (subscribers uses) s) := by
  have hrow := foldl_journaled notice react
    (fun name l state => (watched (SlotListener.journaled name l) state).1) hwatched
    (subscribers uses) s []
  rw [List.nil_append, subscribers, List.foldl_map, List.foldl_map] at hrow
  rw [after_listeners, after_listeners, List.foldl_map, List.foldl_map]
  exact hrow

theorem identified_after (slot : Nat) (id : String) :
    (after .journaled uses).identified (s, []) slot id
      = ((after .plain uses).identified s slot id,
          callNotes (.identified slot id) (fun l state => l.identified state slot id)
            (subscribers uses) s) :=
  listeners_after uses s _ (fun l state => l.identified state slot id)
    (fun l state => l.identified state slot id) fun _ _ _ _ => rfl

theorem presence_after (slot : Nat) (present : Bool) :
    (after .journaled uses).presence (s, []) slot present
      = ((after .plain uses).presence s slot present,
          callNotes (.presence slot present) (fun l state => l.presence state slot present)
            (subscribers uses) s) :=
  listeners_after uses s _ (fun l state => l.presence state slot present)
    (fun l state => l.presence state slot present) fun _ _ _ _ => rfl

end Dispatch

end Bus

/-! ### All calls -/

/-- **Everyone is called once, in the order in which they came.**  The bus has been used in any way:
entries were registered in any groups, also several under one key, listeners subscribed, numbers were
used to unsubscribe, also again and also numbers of another bus.  The handlers and listeners do what
they like to the state, and end well, fail or crash.  An acknowledgement is told to the entries under
its key, to each once, in the order of registration, and to nobody else, with its own text; the
report counts these calls and those of them that did not end well.  What is found at a slot is told
to the subscribers whose subscription was made and not given back, to each once, in the order of
subscription.  The journal changes nothing else.  Who unsubscribes takes his own subscription away
and no other one. -/
theorem everyone_called_once (uses : List (Bus.Use ν σ)) (s : σ) :
    let bus : Bus σ := Bus.after .plain uses
    let watched : Bus (σ × List (CallNote ν)) := Bus.after .journaled uses
    let subs := Bus.standing 0 uses
    (∀ outcome tag text, ∃ notes,
      watched.dispatch (s, []) outcome tag text
          = (((bus.dispatch s outcome tag text).1, notes), (bus.dispatch s outcome tag text).2) ∧
        notes.map CallNote.call
          = (Bus.meant outcome tag uses).map (fun entry => (entry.1, .acknowledged text)) ∧
        (bus.dispatch s outcome tag text).2 = ⟨notes.length, notes.countP CallNote.isBad⟩) ∧
      (∀ slot id, ∃ notes,
        watched.identified (s, []) slot id = (bus.identified s slot id, notes) ∧
          notes.map CallNote.call = subs.map fun sub => (sub.name, .identified slot id)) ∧
      (∀ slot present, ∃ notes,
        watched.presence (s, []) slot present = (bus.presence s slot present, notes) ∧
          notes.map CallNote.call = subs.map fun sub => (sub.name, .presence slot present)) ∧
      subs.Pairwise (fun sub other => sub.place < other.place) ∧
      (∀ sub, sub ∈ subs ↔ Bus.Stands uses 0 sub) ∧
      ∀ place,
        Bus.registered (uses ++ [.unsubscribe place]) = Bus.registered uses ∧
          Bus.standing 0 (uses ++ [.unsubscribe place])
            = subs.filter fun sub => sub.place ≠ place := by
  intro bus watched subs
  have hnames : ∀ notice : Notice, (Bus.subscribers uses).map (fun entry => (entry.1, notice))
      = subs.map fun sub => (sub.name, notice) := fun notice => List.map_map
  refine ⟨fun outcome tag text => ?_,
    fun slot id => ⟨_, Bus.identified_after uses s slot id, ?_⟩,
    fun slot present => ⟨_, Bus.presence_after uses s slot present, ?_⟩,
    Bus.standing_increasing 0 uses, fun sub => Bus.mem_standing_iff,
    fun place => ⟨Bus.registered_kept rfl uses,
      Bus.standing_unsubscribe place⟩⟩
  · obtain ⟨hwatched, hreport⟩ := Bus.dispatch_after uses s outcome tag text
    exact ⟨_, hwatched, callNotes_call _ _ _ _, hreport⟩
  · rw [callNotes_call, hnames]
  · rw [callNotes_call, hnames]

/-- Two handlers under one key, the first of which fails, and two listeners, the first of which has
unsubscribed twice. -/
def quarrel : List (Bus.Use String Unit) :=
  [.register [("jammed", ⟨.ok, "load", fun _ _ => ((), .failed)⟩),
     ("sound", ⟨.ok, "load", fun _ _ => ((), .done)⟩)],
   .subscribe "gone" {}, .subscribe "there" {}, .unsubscribe 0, .unsubscribe 0]

example : ((Bus.after .journaled quarrel).dispatch ((), []) .ok "load" (some "x")).2 = ⟨2, 1⟩ ∧
    ((Bus.after .journaled quarrel).presence ((), []) 3 true).2.map CallNote.call
      = [("there", .presence 3 true)] := by decide

end Autosampler

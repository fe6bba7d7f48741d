import Autosampler.Proofs.SlotChanges
import Autosampler.Vision

/-!
# The course of the machine

What the machine does with a message depends on the message, on the number of slots and on the
machine itself.  It does not depend on what the magazine holds, on what is mounted or pending, on
what the camera shows, or on how handlers and listeners end.  So there is a machine that hears the
messages alone, and every receiver follows it.

* `Machine.hear`, `Machine.hearAll` — the machine that hears messages, with its transitions;
* `Follows` — a changer went where the machine alone goes;
* `Handler.Aloof`, `SlotListener.Aloof`, `Bus.Harmless` — what does not touch the machine, and a bus
  with nothing else but the changer's own handlers;
* `Receiver.handle_follows`, `Receiver.handleAll_follows` — one message, and any number of them;
* `Machine.Alike`, `Machine.Alike.hearAll` — machines that differ in their clock take one course;
* `same_course` — two systems with like machines take one course.
-/

namespace Autosampler

/-! ### The machine alone -/

namespace Machine

/-- A step of a scan under the tag of the running program. -/
def advance (m : Machine) (event : Event) : Fired := m.fire event ⟨m.tag, none⟩

/-- The step after slot number `slot` of `size`: `last` after the last slot. -/
def stepAfter (size slot : Nat) (last : Event) : Event := if slot = size then last else .nextSlot

/-- A look at a slot, whatever it shows: to the slot, and on from there. -/
def scanSlot (size : Nat) (m : Machine) (slot : Nat) : Machine × List Transition :=
  let reached := m.advance .atScanPos
  let passed := reached.machine.advance (stepAfter size slot .finishedScanning)
  (passed.machine, reached.log ++ passed.log)

/-- The machine after a message, and its transitions. -/
def hear (size : Nat) (m : Machine) : Message → Machine × List Transition
  | .slot slot _ =>
    if size < slot then (m, [])
    else
      let passed := m.advance (stepAfter size slot .finishedPresenceDetection)
      (passed.machine, passed.log)
  | .qr slot =>
    if size < slot then (m, [])
    else if m.state = .movingToScanPos ∨ m.state = .movingToScanPosMounted then
      m.scanSlot size slot
    else (m, [])
  | .ok =>
    let finished := m.fire .programFinished {}
    (finished.machine, finished.log)
  | .get _ | .error _ => (m, [])

/-- The machine after a list of messages, and its transitions. -/
def hearAll (size : Nat) (m : Machine) : List Message → Machine × List Transition
  | [] => (m, [])
  | message :: messages =>
    let heard := m.hear size message
    let rest := heard.1.hearAll size messages
    (rest.1, heard.2 ++ rest.2)

end Machine

/-- The reply to a message. -/
def Message.reply? : Message → Option String
  | .get key => some (Message.probeReply key)
  | _ => none

/-! ### Following the machine -/

/-- From `c` to `d`, the machine took the transitions of `course` and no others, and the magazine
kept its size. -/
structure Follows (c d : Changer) (course : Machine × List Transition) : Prop where
  machine : d.machine = course.1
  told : d.told = c.told ++ course.2
  size : d.magazine.size = c.magazine.size

/-- From `c` to `d`, the machine was not touched. -/
abbrev Undisturbed (c d : Changer) : Prop := Follows c d (c.machine, [])

namespace Follows

variable {c d e : Changer} {course course' : Machine × List Transition}

theorem trans (h : Follows c d course) (h' : Follows d e course') :
    Follows c e (course'.1, course.2 ++ course'.2) where
  machine := h'.machine
  told := by rw [h'.told, h.told, List.append_assoc]
  size := h'.size.trans h.size

theorem fire (c : Changer) (event : Event) (args : FireArgs) :
    Follows c (c.fire event args).1
      ((c.machine.fire event args).machine, (c.machine.fire event args).log) := ⟨rfl, rfl, rfl⟩

theorem advance (c : Changer) (event : Event) :
    Follows c (c.advance event)
      ((c.machine.advance event).machine, (c.machine.advance event).log) := fire c event _

end Follows

namespace Undisturbed

variable {c d e : Changer}

theorem refl (c : Changer) : Undisturbed c c := ⟨rfl, (List.append_nil _).symm, rfl⟩

theorem trans (h : Undisturbed c d) (h' : Undisturbed d e) : Undisturbed c e := by
  have hboth := Follows.trans h h'
  rw [h.machine] at hboth
  exact hboth

/-- Changes to other parts than machine and magazine. -/
theorem of_eq (hm : d.machine = c.machine) (ht : d.told = c.told)
    (hs : d.magazine.size = c.magazine.size) : Undisturbed c d :=
  ⟨hm, by rw [ht, List.append_nil], hs⟩

/-- A call on the magazine keeps its size, whether it succeeds or fails. -/
theorem adopt (c : Changer) (change : Change) {call : Except MagazineError Magazine}
    (hcall : c.magazine.orKeep call = c.magazine.apply change) :
    Undisturbed c (c.adopt call).1 := by
  have hsize : (c.adopt call).1.magazine.size = c.magazine.size := by
    rw [Changer.adopt_magazine, hcall, Magazine.size_apply]
  cases call with
  | ok magazine => exact of_eq rfl rfl hsize
  | error e => exact refl c

/-- What followed the machine before follows it still. -/
theorem follows {course : Machine × List Transition} (h : Undisturbed c d)
    (h' : Follows d e course) : Follows c e course := Follows.trans h h'

end Undisturbed

/-! ### Handlers and listeners -/

/-- A handler does not touch the machine, nor the number of slots, however it ends. -/
def Handler.Aloof (h : Handler Changer) : Prop :=
  ∀ c arg, Undisturbed c (h.act c arg).1

/-- A slot listener does not touch the machine, nor the number of slots, however its calls end. -/
structure SlotListener.Aloof (l : SlotListener Changer) : Prop where
  identified : ∀ c slot id, Undisturbed c (l.identified c slot id).1
  presence : ∀ c slot present, Undisturbed c (l.presence c slot present).1

/-- Apart from the changer's own handlers and listener, nothing on the bus touches the machine. -/
structure Bus.Harmless (b : Bus Changer) : Prop where
  handlers : ∀ h ∈ b.handlers, h ∈ Changer.handlers ++ Changer.errorHandlers ∨ h.Aloof
  listeners : ∀ entry ∈ b.listeners, entry.2 = Changer.slotListener ∨ entry.2.Aloof

namespace Changer

theorem dropPending_undisturbed (c : Changer) : Undisturbed c c.dropPending :=
  .of_eq rfl rfl rfl

theorem finishLoad_undisturbed (c : Changer) : Undisturbed c c.finishLoad.1 := by
  unfold finishLoad
  split
  · rename_i slot _
    exact c.dropPending_undisturbed.trans
      (.adopt c.dropPending (.insert slot (placeholder slot)) rfl)
  · exact c.dropPending_undisturbed

theorem finishUnload_undisturbed (c : Changer) : Undisturbed c c.finishUnload.1 := by
  unfold finishUnload
  split
  · split
    · rename_i id _
      refine c.dropPending_undisturbed.trans (.adopt c.dropPending (.remove id) ?_)
      show c.magazine.orKeep ((c.magazine.remove id).map Prod.fst) = c.magazine.without id
      unfold Magazine.without
      cases c.magazine.remove id <;> rfl
    · exact c.dropPending_undisturbed
  · exact c.dropPending_undisturbed

theorem finishMount_undisturbed (c : Changer) : Undisturbed c c.finishMount.1 := by
  unfold finishMount
  split <;> exact .of_eq rfl rfl rfl

theorem finishUnmount_undisturbed (c : Changer) : Undisturbed c c.finishUnmount.1 :=
  .of_eq rfl rfl rfl

/-- The changer's own handlers leave the machine to the receiver. -/
theorem handlers_aloof {h : Handler Changer} (hmem : h ∈ handlers ++ errorHandlers) : h.Aloof := by
  intro c arg
  rcases List.mem_append.mp hmem with hok | herror
  · simp only [handlers, List.mem_cons, List.not_mem_nil, or_false] at hok
    rcases hok with rfl | rfl | rfl | rfl | rfl | rfl | rfl
    · exact c.finishLoad_undisturbed
    · exact c.finishUnload_undisturbed
    · exact c.finishMount_undisturbed
    · exact c.finishUnmount_undisturbed
    · exact c.finishUnmount_undisturbed
    · exact c.dropPending_undisturbed
    · exact c.dropPending_undisturbed
  · obtain ⟨tag, -, rfl⟩ := List.mem_map.mp herror
    exact c.dropPending_undisturbed

theorem noteSample_undisturbed (c : Changer) (slot : Nat) (id : String) :
    Undisturbed c (c.noteSample slot id).1 := by
  unfold noteSample
  split
  · exact .refl c
  · exact .adopt c (.update slot id) rfl

theorem notePresence_undisturbed (c : Changer) (slot : Nat) (present : Bool) :
    Undisturbed c (c.notePresence slot present).1 := by
  unfold notePresence
  split
  · exact .refl c
  · exact .adopt c (.presence slot present) rfl

theorem slotListener_aloof : slotListener.Aloof :=
  ⟨noteSample_undisturbed, notePresence_undisturbed⟩

end Changer

namespace Bus.Harmless

variable {b : Bus Changer}

theorem empty : Bus.Harmless {} :=
  ⟨fun _ hmem => (List.not_mem_nil hmem).elim, fun _ hmem => (List.not_mem_nil hmem).elim⟩

theorem register (h : b.Harmless) {hs : List (Handler Changer)}
    (hnew : ∀ h ∈ hs, h ∈ Changer.handlers ++ Changer.errorHandlers ∨ h.Aloof) :
    (b.register hs).Harmless where
  handlers handler hmem := (List.mem_append.mp hmem).elim (h.handlers handler) (hnew handler)
  listeners := h.listeners

/-- The changer's own bookkeeping may join whatever is there. -/
theorem subscribe (h : b.Harmless) : (Changer.subscribe b).Harmless where
  handlers := (h.register fun _ hmem => Or.inl hmem).handlers
  listeners entry hmem := by
    rcases List.mem_append.mp hmem with hbefore | hown
    · exact h.listeners entry hbefore
    · obtain rfl := List.mem_singleton.mp hown
      exact Or.inl rfl

theorem handler_aloof (h : b.Harmless) {handler : Handler Changer}
    (hmem : handler ∈ b.handlers) : handler.Aloof :=
  (h.handlers handler hmem).elim Changer.handlers_aloof id

theorem listener_aloof (h : b.Harmless) {entry : Nat × SlotListener Changer}
    (hmem : entry ∈ b.listeners) : entry.2.Aloof := by
  rcases h.listeners entry hmem with hown | haloof
  · rw [hown]
    exact Changer.slotListener_aloof
  · exact haloof

/-- Handlers that fail or crash are passed over; none of them reaches the machine. -/
theorem callHandlers (arg : Option String) (hs : List (Handler Changer))
    (haloof : ∀ h ∈ hs, h.Aloof) (c : Changer) : Undisturbed c (Bus.callHandlers arg hs c).1 := by
  induction hs generalizing c with
  | nil => exact .refl c
  | cons h hs ih =>
    have hfirst := haloof h List.mem_cons_self c arg
    exact hfirst.trans (ih (fun later hmem => haloof later (List.mem_cons_of_mem h hmem)) _)

theorem dispatch (h : b.Harmless) (c : Changer) (outcome : Outcome) (tag : String)
    (arg : Option String) : Undisturbed c (b.dispatch c outcome tag arg).1 :=
  callHandlers arg _ (fun _ hmem => h.handler_aloof (List.mem_filter.mp hmem).1) c

/-- Calls on listeners one after the other. -/
theorem foldl_listeners (call : SlotListener Changer → Changer → Changer)
    (entries : List (Nat × SlotListener Changer))
    (hcall : ∀ entry ∈ entries, ∀ c, Undisturbed c (call entry.2 c)) (c : Changer) :
    Undisturbed c (entries.foldl (fun c entry => call entry.2 c) c) := by
  induction entries generalizing c with
  | nil => exact .refl c
  | cons entry entries ih =>
    have hfirst := hcall entry List.mem_cons_self c
    exact hfirst.trans (ih (fun later hmem => hcall later (List.mem_cons_of_mem entry hmem)) _)

theorem identified (h : b.Harmless) (c : Changer) (slot : Nat) (id : String) :
    Undisturbed c (b.identified c slot id) :=
  foldl_listeners (fun l c => (l.identified c slot id).1) b.listeners
    (fun _ hmem c => (h.listener_aloof hmem).identified c slot id) c

theorem presence (h : b.Harmless) (c : Changer) (slot : Nat) (present : Bool) :
    Undisturbed c (b.presence c slot present) :=
  foldl_listeners (fun l c => (l.presence c slot present).1) b.listeners
    (fun _ hmem c => (h.listener_aloof hmem).presence c slot present) c

end Bus.Harmless

/-! ### Receivers -/

namespace Receiver

variable {κ : Type} {r : Receiver κ}

theorem onSlot_follows (h : r.bus.Harmless) (c : Changer) (slot : Nat) (present : Bool) :
    Follows c (r.onSlot c slot present) (c.machine.hear c.magazine.size (.slot slot present)) := by
  by_cases hlt : c.magazine.size < slot
  · simp only [onSlot, Machine.hear, if_pos hlt]
    exact Undisturbed.refl c
  · simp only [onSlot, Machine.hear, if_neg hlt]
    have hnoted := h.presence c (slot - 1) present
    have hpassed := hnoted.follows
      (Follows.advance _ (c.stepAfter slot .finishedPresenceDetection))
    rw [hnoted.machine] at hpassed
    exact hpassed

/-- Whatever the look shows, and whatever is made of it, the scan goes on. -/
theorem scanSlot_follows (h : r.bus.Harmless) (cell : Cell κ) (slot : Nat) :
    Follows cell.changer (r.scanSlot cell slot).changer
      (cell.changer.machine.scanSlot cell.changer.magazine.size slot) := by
  have hgoes (noted : Changer) (hn : Undisturbed (cell.changer.advance .atScanPos) noted) :
      Follows cell.changer (noted.advance (noted.stepAfter slot .finishedScanning))
        (cell.changer.machine.scanSlot cell.changer.magazine.size slot) := by
    have hstep : noted.stepAfter slot .finishedScanning
        = Machine.stepAfter cell.changer.magazine.size slot .finishedScanning := by
      rw [Changer.stepAfter, hn.size]
      rfl
    have hpassed := (Follows.advance cell.changer .atScanPos).trans
      (hn.follows (Follows.advance noted (noted.stepAfter slot .finishedScanning)))
    rw [hn.machine, hstep] at hpassed
    rw [hstep]
    exact hpassed
  cases hlook : r.look cell.camera with
  | mk camera label =>
    simp only [scanSlot, hlook]
    cases label with
    | none => exact hgoes _ (.refl _)
    | some id => exact hgoes _ (h.identified _ _ id)

theorem onCode_follows (h : r.bus.Harmless) (cell : Cell κ) (slot : Nat) :
    Follows cell.changer (r.onCode cell slot).changer
      (cell.changer.machine.hear cell.changer.magazine.size (.qr slot)) := by
  have hstays : Undisturbed cell.changer cell.changer := .refl _
  have hscan := scanSlot_follows h cell slot
  by_cases hlt : cell.changer.magazine.size < slot
  · simp only [onCode, Machine.hear, if_pos hlt]
    exact hstays
  · simp only [onCode, Machine.hear, if_neg hlt]
    change Follows _ _ (if cell.changer.state = _ ∨ cell.changer.state = _ then _ else _)
    cases cell.changer.state with
    | movingToScanPos | movingToScanPosMounted => exact hscan
    | _ => exact hstays

theorem onOk_follows (h : r.bus.Harmless) (c : Changer) :
    Follows c (r.onOk c) (c.machine.hear c.magazine.size .ok) := by
  have hbooks := h.dispatch c .ok c.tagOrEmpty none
  have hfinished := hbooks.follows (Follows.fire _ .programFinished {})
  rw [hbooks.machine] at hfinished
  exact hfinished

/-- **One message.**  The machine goes where it goes alone, and the reply is the message's. -/
theorem handle_follows (h : r.bus.Harmless) (cell : Cell κ) (message : Message) :
    Follows cell.changer (r.handle cell message).1.changer
        (cell.changer.machine.hear cell.changer.magazine.size message) ∧
      (r.handle cell message).2 = message.reply? := by
  cases message with
  | slot slot present => exact ⟨onSlot_follows h cell.changer slot present, rfl⟩
  | qr slot => exact ⟨onCode_follows h cell slot, rfl⟩
  | get key => exact ⟨Undisturbed.refl _, rfl⟩
  | ok => exact ⟨onOk_follows h cell.changer, rfl⟩
  | error text => exact ⟨h.dispatch cell.changer .error _ _, rfl⟩

/-- Messages handled one after the other, with the replies.  Handlers and camera may change from
message to message, so each message comes with the receiver that handles it. -/
def handleAll (cell : Cell κ) : List (Receiver κ × Message) → Cell κ × List (Option String)
  | [] => (cell, [])
  | (r, message) :: rest =>
    let (after, reply) := r.handle cell message
    let (last, replies) := handleAll after rest
    (last, reply :: replies)

/-- Any number of messages. -/
theorem handleAll_follows (cell : Cell κ) (handled : List (Receiver κ × Message))
    (h : ∀ step ∈ handled, step.1.bus.Harmless) :
    Follows cell.changer (handleAll cell handled).1.changer
        (cell.changer.machine.hearAll cell.changer.magazine.size (handled.map Prod.snd)) ∧
      (handleAll cell handled).2 = (handled.map Prod.snd).map Message.reply? := by
  induction handled generalizing cell with
  | nil => exact ⟨Undisturbed.refl _, rfl⟩
  | cons step rest ih =>
    obtain ⟨r, message⟩ := step
    obtain ⟨hfirst, hreply⟩ := handle_follows (h (r, message) List.mem_cons_self) cell message
    obtain ⟨hrest, hreplies⟩ := ih (r.handle cell message).1 fun later hmem =>
      h later (List.mem_cons_of_mem _ hmem)
    rw [hfirst.machine, hfirst.size] at hrest
    refine ⟨hfirst.trans hrest, ?_⟩
    show (r.handle cell message).2 :: (handleAll (r.handle cell message).1 rest).2 = _
    rw [hreply, hreplies]
    rfl

end Receiver

/-- On the changer's own bus, too, the machine goes where it goes alone. -/
theorem Changer.hear_follows (c : Changer) (message : Message) (label : Option String) :
    Follows c (c.hear message label) (c.machine.hear c.magazine.size message) := by
  have hharmless : ownBus.Harmless := Bus.Harmless.empty.subscribe
  exact (Receiver.handle_follows (r := ⟨ownBus, fun _ => ((), label)⟩) hharmless ⟨c, ()⟩
    message).1

/-! ### Machines that differ in their clock -/

namespace Machine

variable {m m' : Machine}

/-- The machines agree in everything but the question whether time can be measured yet. -/
structure Alike (m m' : Machine) : Prop where
  state : m.state = m'.state
  tag : m.tag = m'.tag
  nextSample : m.nextSample = m'.nextSample
  mountTarget : m.mountTarget = m'.mountTarget
  count : m.count = m'.count

namespace Alike

theorem refl (m : Machine) : Alike m m := ⟨rfl, rfl, rfl, rfl, rfl⟩

theorem step?_eq (h : Alike m m') (event : Event) (args : FireArgs) :
    m.step? event args = m'.step? event args := by
  simp only [step?, h.state, h.nextSample, h.mountTarget, h.count]

theorem fire (h : Alike m m') (event : Event) (args : FireArgs) :
    Alike (m.fire event args).machine (m'.fire event args).machine ∧
      (m.fire event args).log = (m'.fire event args).log := by
  unfold Machine.fire
  rw [h.step?_eq event args]
  cases m'.step? event args with
  | none => exact ⟨h, rfl⟩
  | some taken =>
    -- a transition sets the clock, so from here on there is one machine
    obtain ⟨m₁, t₁, next⟩ := taken
    cases next with
    | none => exact ⟨refl _, rfl⟩
    | some sample => exact ⟨refl _, rfl⟩

theorem advance (h : Alike m m') (event : Event) :
    Alike (m.advance event).machine (m'.advance event).machine ∧
      (m.advance event).log = (m'.advance event).log := by
  unfold Machine.advance
  rw [h.tag]
  exact h.fire event _

theorem scanSlot (h : Alike m m') (size slot : Nat) :
    Alike (m.scanSlot size slot).1 (m'.scanSlot size slot).1 ∧
      (m.scanSlot size slot).2 = (m'.scanSlot size slot).2 := by
  obtain ⟨hreached, hlog⟩ := h.advance .atScanPos
  obtain ⟨hpassed, hlog'⟩ := hreached.advance (stepAfter size slot .finishedScanning)
  refine ⟨hpassed, ?_⟩
  simp only [Machine.scanSlot, hlog, hlog']

theorem hear (h : Alike m m') (size : Nat) (message : Message) :
    Alike (m.hear size message).1 (m'.hear size message).1 ∧
      (m.hear size message).2 = (m'.hear size message).2 := by
  cases message with
  | slot slot present =>
    simp only [Machine.hear]
    split
    · exact ⟨h, rfl⟩
    · exact h.advance _
  | qr slot =>
    simp only [Machine.hear, h.state]
    split
    · exact ⟨h, rfl⟩
    split
    · exact h.scanSlot size slot
    · exact ⟨h, rfl⟩
  | ok => exact h.fire .programFinished {}
  | get key => exact ⟨h, rfl⟩
  | error text => exact ⟨h, rfl⟩

theorem hearAll (h : Alike m m') (size : Nat) (messages : List Message) :
    Alike (m.hearAll size messages).1 (m'.hearAll size messages).1 ∧
      (m.hearAll size messages).2 = (m'.hearAll size messages).2 := by
  induction messages generalizing m m' with
  | nil => exact ⟨h, rfl⟩
  | cons message messages ih =>
    obtain ⟨hfirst, hlog⟩ := h.hear size message
    obtain ⟨hrest, hlogs⟩ := ih hfirst
    refine ⟨hrest, ?_⟩
    simp only [Machine.hearAll, hlog, hlogs]

end Alike

end Machine

/-! ### Two systems -/

/-- **One course.**  Two systems have as many slots and machines in the same situation; otherwise
their magazines, positions, cameras and decoders, and the handlers and listeners that they add to
the changer's own, are arbitrary, as long as these do not touch the machine.  When the same
messages are handled, both give the same replies, take the same transitions, and end in the same
situation. -/
theorem same_course {κ₁ κ₂ : Type} (cell₁ : Cell κ₁) (cell₂ : Cell κ₂)
    (handled₁ : List (Receiver κ₁ × Message)) (handled₂ : List (Receiver κ₂ × Message))
    (hmessages : handled₁.map Prod.snd = handled₂.map Prod.snd)
    (hbuses₁ : ∀ step ∈ handled₁, step.1.bus.Harmless)
    (hbuses₂ : ∀ step ∈ handled₂, step.1.bus.Harmless)
    (hsize : cell₁.changer.magazine.size = cell₂.changer.magazine.size)
    (hmachine : cell₁.changer.machine.Alike cell₂.changer.machine) :
    let after₁ := Receiver.handleAll cell₁ handled₁
    let after₂ := Receiver.handleAll cell₂ handled₂
    after₁.2 = after₂.2 ∧ after₁.1.changer.machine.Alike after₂.1.changer.machine ∧
      ∃ log, after₁.1.changer.told = cell₁.changer.told ++ log ∧
        after₂.1.changer.told = cell₂.changer.told ++ log := by
  intro after₁ after₂
  obtain ⟨hfollows₁, hreplies₁⟩ := Receiver.handleAll_follows cell₁ handled₁ hbuses₁
  obtain ⟨hfollows₂, hreplies₂⟩ := Receiver.handleAll_follows cell₂ handled₂ hbuses₂
  rw [hsize, hmessages] at hfollows₁
  obtain ⟨halike, hlog⟩ := hmachine.hearAll cell₂.changer.magazine.size (handled₂.map Prod.snd)
  refine ⟨?_, ?_, _, hfollows₁.told, ?_⟩
  · exact hreplies₁.trans ((congrArg (List.map Message.reply?) hmessages).trans hreplies₂.symm)
  · show after₁.1.changer.machine.Alike after₂.1.changer.machine
    rw [hfollows₁.machine, hfollows₂.machine]
    exact halike
  · rw [hlog]
    exact hfollows₂.told

/-- A handler that clears the magazine, takes the mounted sample away, and crashes. -/
def clearing : Handler Changer :=
  ⟨.ok, Event.scanSamples.id, fun c _ =>
    ({ c with magazine := c.magazine.clear, mounted := none }, .crashed)⟩

theorem clearing_aloof : clearing.Aloof := fun c _ =>
  .of_eq rfl rfl (List.length_replicate : (List.replicate c.magazine.size "").length = _)

/-- The camera crashes at every look. -/
def blindReceiver : Receiver Unit := ⟨ownBus, fun k => (k, Grab.crashed.label? fun _ => none)⟩

/-- The camera counts its looks and shows a label each time, and a handler interferes. -/
def busyReceiver : Receiver Nat :=
  ⟨Changer.subscribe (({} : Bus Changer).register [clearing]), fun looks => (looks + 1, some "A")⟩

/-- A scan of one slot has begun. -/
def scanningOne : Changer := (Changer.ofSize 1).run [.command .scan willing]

/-- The same, with other samples in the books and nothing pending. -/
def scanningOther : Changer :=
  { scanningOne with magazine := ⟨["B"], 0⟩, mounted := some "C", pending := none }

theorem same_course_scan :
    let messages : List Message := [.qr 1, .slot 1 false, .get "state", .ok, .ok]
    let handled₁ := messages.map fun message => (blindReceiver, message)
    let handled₂ := messages.map fun message => (busyReceiver, message)
    handled₁.map Prod.snd = handled₂.map Prod.snd ∧
      (∀ step ∈ handled₁, step.1.bus.Harmless) ∧ (∀ step ∈ handled₂, step.1.bus.Harmless) ∧
      scanningOne.magazine.size = scanningOther.magazine.size ∧
      scanningOne.machine.Alike scanningOther.machine ∧
      let after₁ := Receiver.handleAll ⟨scanningOne, ()⟩ handled₁
      let after₂ := Receiver.handleAll ⟨scanningOther, 0⟩ handled₂
      after₁.2 = after₂.2 ∧ after₁.1.changer.machine.Alike after₂.1.changer.machine ∧
        ∃ log, after₁.1.changer.told = scanningOne.told ++ log ∧
          after₂.1.changer.told = scanningOther.told ++ log := by
  intro messages handled₁ handled₂
  have hmessages : handled₁.map Prod.snd = handled₂.map Prod.snd := rfl
  have hbuses₁ : ∀ step ∈ handled₁, step.1.bus.Harmless := by
    intro step hmem
    obtain ⟨message, -, rfl⟩ := List.mem_map.mp hmem
    exact Bus.Harmless.empty.subscribe
  have hbuses₂ : ∀ step ∈ handled₂, step.1.bus.Harmless := by
    intro step hmem
    obtain ⟨message, -, rfl⟩ := List.mem_map.mp hmem
    refine (Bus.Harmless.empty.register fun h hmem => Or.inr ?_).subscribe
    obtain rfl := List.mem_singleton.mp hmem
    exact clearing_aloof
  have hsize : scanningOne.magazine.size = scanningOther.magazine.size := by decide +kernel
  have hmachine : scanningOne.machine.Alike scanningOther.machine := .refl _
  exact ⟨hmessages, hbuses₁, hbuses₂, hsize, hmachine,
    same_course ⟨scanningOne, ()⟩ ⟨scanningOther, 0⟩ handled₁ handled₂ hmessages hbuses₁ hbuses₂
      hsize hmachine⟩

end Autosampler

import Autosampler.Proofs.Course
import Autosampler.Robot.Connection
import Mathlib.Data.List.Forall2
import Mathlib.Logic.Relation

/-!
# Noise on the robot's connection

A connection of the robot may deliver lines that say nothing: they are no text, they are blank, they
are no messages, or they speak of a slot that the magazine does not have.  Such a line is dropped
before it reaches the changer or the camera, wherever it stands.  What is not dropped speaks of a
slot that the magazine has, and so do the calls of slot listeners.

* `Text.LineStart`, `Text.lines_append`, `Text.lines_line` — where the lines of a stream are cut;
* `Bus.KeepsSize`, `Receiver.onLines_size` — the number of slots stays, whoever listens;
* `Noise`, `Receiver.onLine_of_noise` — lines that say nothing, and what they do;
* `Inserted`, `Receiver.serve_of_inserted` — a stream with one more such line;
* `Message.number?`, `Message.one_le_of_ofLine` — the slot number of a message;
* `Bus.AgreeBelow`, `Receiver.serve_of_agree` — listeners that differ beyond the last slot only;
* `noise_is_inaudible` — noise changes nothing, and no listener is called for a missing slot.
-/

namespace Autosampler

/-! ### Lines of a stream -/

namespace Text

variable {body before after : List UInt8}

/-- After these bytes, a line begins. -/
def LineStart (before : List UInt8) : Prop := before = [] ∨ before.getLast? = some newline

theorem lines_ne_nil (b : UInt8) (bs : List UInt8) : lines (b :: bs) ≠ [] := by
  unfold lines
  split
  · exact List.cons_ne_nil _ _
  · split <;> exact List.cons_ne_nil _ _

/-- A line ends with its newline. -/
theorem lines_line (h : newline ∉ body) (after : List UInt8) :
    lines (body ++ newline :: after) = (body ++ [newline]) :: lines after := by
  induction body with
  | nil => exact if_pos rfl
  | cons b body ih =>
    have hb : b ≠ newline := fun heq => h (heq ▸ List.mem_cons_self)
    have hbody : newline ∉ body := fun hmem => h (List.mem_cons_of_mem b hmem)
    rw [List.cons_append, lines, if_neg hb, ih hbody]
    rfl

theorem LineStart.tail {b : UInt8} (h : LineStart (b :: before)) : LineStart before := by
  cases before with
  | nil => exact Or.inl rfl
  | cons next before =>
    rcases h with h | h
    · cases h
    · rw [List.getLast?_cons_cons] at h
      exact Or.inr h

/-- A stream can be cut where a line begins. -/
theorem lines_append (h : LineStart before) (after : List UInt8) :
    lines (before ++ after) = lines before ++ lines after := by
  induction before with
  | nil => rfl
  | cons b before ih =>
    rw [List.cons_append, lines, lines]
    by_cases hb : b = newline
    · rw [if_pos hb, if_pos hb, ih h.tail]
      rfl
    · rw [if_neg hb, if_neg hb, ih h.tail]
      cases before with
      | nil =>
        rcases h with h | h
        · cases h
        · exact absurd (Option.some.inj h) hb
      | cons next before =>
        obtain ⟨line, rest, hlines⟩ := List.exists_cons_of_ne_nil (lines_ne_nil next before)
        rw [hlines]
        rfl

end Text

/-! ### The number of slots -/

/-- No handler and no listener on the bus changes the number of slots. -/
structure Bus.KeepsSize (b : Bus Changer) : Prop where
  handlers : ∀ h ∈ b.handlers, ∀ c arg, (h.act c arg).1.magazine.size = c.magazine.size
  identified : ∀ entry ∈ b.listeners, ∀ c slot id,
    (entry.2.identified c slot id).1.magazine.size = c.magazine.size
  presence : ∀ entry ∈ b.listeners, ∀ c slot present,
    (entry.2.presence c slot present).1.magazine.size = c.magazine.size

theorem Bus.Harmless.keepsSize {b : Bus Changer} (h : b.Harmless) : b.KeepsSize where
  handlers _ hmem c arg := (h.handler_aloof hmem c arg).size
  identified _ hmem c slot id := ((h.listener_aloof hmem).identified c slot id).size
  presence _ hmem c slot present := ((h.listener_aloof hmem).presence c slot present).size

namespace Bus

variable {b : Bus Changer}

theorem callHandlers_size (arg : Option String) {hs : List (Handler Changer)}
    (h : ∀ handler ∈ hs, ∀ c arg, (handler.act c arg).1.magazine.size = c.magazine.size)
    (c : Changer) : (callHandlers arg hs c).1.magazine.size = c.magazine.size := by
  induction hs generalizing c with
  | nil => rfl
  | cons handler hs ih =>
    obtain ⟨hfirst, hrest⟩ := List.forall_mem_cons.mp h
    exact (ih hrest (handler.act c arg).1).trans (hfirst c arg)

theorem foldl_size {entries : List (Nat × SlotListener Changer)}
    {call : Changer → Nat × SlotListener Changer → Changer}
    (h : ∀ entry ∈ entries, ∀ c, (call c entry).magazine.size = c.magazine.size) (c : Changer) :
    (entries.foldl call c).magazine.size = c.magazine.size := by
  induction entries generalizing c with
  | nil => rfl
  | cons entry entries ih =>
    obtain ⟨hfirst, hrest⟩ := List.forall_mem_cons.mp h
    exact (ih hrest (call c entry)).trans (hfirst c)

namespace KeepsSize

theorem dispatch_size (h : b.KeepsSize) (c : Changer) (outcome : Outcome) (tag : String)
    (arg : Option String) :
    (b.dispatch c outcome tag arg).1.magazine.size = c.magazine.size :=
  callHandlers_size arg (fun handler hmem => h.handlers handler (List.mem_filter.mp hmem).1) c

theorem identified_size (h : b.KeepsSize) (c : Changer) (slot : Nat) (id : String) :
    (b.identified c slot id).magazine.size = c.magazine.size :=
  foldl_size (fun entry hmem c => h.identified entry hmem c slot id) c

theorem presence_size (h : b.KeepsSize) (c : Changer) (slot : Nat) (present : Bool) :
    (b.presence c slot present).magazine.size = c.magazine.size :=
  foldl_size (fun entry hmem c => h.presence entry hmem c slot present) c

end KeepsSize

end Bus

namespace Receiver

variable {κ : Type} {r : Receiver κ}

theorem scanSlot_size (h : r.bus.KeepsSize) (cell : Cell κ) (slot : Nat) :
    (r.scanSlot cell slot).changer.magazine.size = cell.changer.magazine.size := by
  cases hlook : r.look cell.camera with
  | mk camera label =>
    simp only [scanSlot, hlook]
    cases label with
    | none => rfl
    | some id => exact h.identified_size (cell.changer.advance .atScanPos) (slot - 1) id

theorem handle_size (h : r.bus.KeepsSize) (cell : Cell κ) (message : Message) :
    (r.handle cell message).1.changer.magazine.size = cell.changer.magazine.size := by
  cases message with
  | slot number present =>
    simp only [handle, onSlot]
    split
    · rfl
    · exact h.presence_size cell.changer (number - 1) present
  | qr number =>
    simp only [handle, onCode]
    split
    · rfl
    · split
      · exact scanSlot_size h cell number
      · exact scanSlot_size h cell number
      · rfl
      · rfl
  | get key => rfl
  | ok => exact h.dispatch_size cell.changer .ok _ none
  | error text => exact h.dispatch_size cell.changer .error _ _

theorem onLine_size (h : r.bus.KeepsSize) (cell : Cell κ) (line : List UInt8) :
    (r.onLine cell line).1.changer.magazine.size = cell.changer.magazine.size := by
  unfold onLine
  split
  · rfl
  · exact handle_size h cell _

/-- Whatever the robot sends, the number of slots stays. -/
theorem onLines_size (h : r.bus.KeepsSize) (cell : Cell κ) (lines : List (List UInt8)) :
    (r.onLines cell lines).1.changer.magazine.size = cell.changer.magazine.size := by
  induction lines generalizing cell with
  | nil => rfl
  | cons line lines ih => exact (ih (r.onLine cell line).1).trans (onLine_size h cell line)

end Receiver

/-! ### Lines that say nothing -/

/-- A line that says nothing to a changer with `n` slots. -/
inductive Noise (n : Nat) (line : List UInt8) : Prop
  | binary (undecoded : Text.decode line = none)
  | blank {text : String} (decoded : Text.decode line = some text)
      (blank : Text.allBlank text = true)
  | rejected {text : String} {fault : LineFault} (decoded : Text.decode line = some text)
      (rejected : Message.ofLine text = .error fault)
  | slot {text : String} {number : Nat} {present : Bool} (decoded : Text.decode line = some text)
      (read : Message.ofLine text = .ok (.slot number present)) (beyond : n < number)
  | code {text : String} {number : Nat} (decoded : Text.decode line = some text)
      (read : Message.ofLine text = .ok (.qr number)) (beyond : n < number)

/-- The second stream is the first one with a line of noise in it. -/
inductive Inserted (n : Nat) : List UInt8 → List UInt8 → Prop
  | intro {before body after : List UInt8} (start : Text.LineStart before)
      (whole : Text.newline ∉ body) (noise : Noise n (body ++ [Text.newline])) :
      Inserted n (before ++ after) (before ++ (body ++ Text.newline :: after))

namespace Receiver

variable {κ : Type} {r : Receiver κ} {cell : Cell κ} {line : List UInt8}

theorem messageOf?_of_decode {text : String} (h : Text.decode line = some text) :
    messageOf? line = (Message.ofLine text).toOption := by
  rw [messageOf?, h]
  rfl

/-- A line of noise is dropped. -/
theorem onLine_of_noise (h : Noise cell.changer.magazine.size line) :
    r.onLine cell line = (cell, none) := by
  cases h with
  | binary undecoded =>
    rw [onLine, messageOf?, undecoded]
    rfl
  | blank decoded blank =>
    rw [onLine, messageOf?_of_decode decoded, Message.ofLine, Text.trim_of_allBlank blank]
    rfl
  | rejected decoded rejected =>
    rw [onLine, messageOf?_of_decode decoded, rejected]
    rfl
  | slot decoded read beyond =>
    rw [onLine, messageOf?_of_decode decoded, read]
    show (({ cell with changer := r.onSlot cell.changer _ _ } : Cell κ), none) = _
    rw [onSlot, if_pos beyond]
  | code decoded read beyond =>
    rw [onLine, messageOf?_of_decode decoded, read]
    show (r.onCode cell _, none) = _
    rw [onCode, if_pos beyond]

theorem onLines_append (r : Receiver κ) (cell : Cell κ) (before after : List (List UInt8)) :
    r.onLines cell (before ++ after)
      = ((r.onLines (r.onLines cell before).1 after).1,
          (r.onLines cell before).2 ++ (r.onLines (r.onLines cell before).1 after).2) := by
  induction before generalizing cell with
  | nil => rfl
  | cons line before ih => simp only [List.cons_append, onLines, ih, List.append_assoc]

/-- A line of noise changes neither what follows from a stream nor the replies. -/
theorem serve_of_inserted (h : r.bus.KeepsSize) {stream stream' : List UInt8}
    (hi : Inserted cell.changer.magazine.size stream stream') :
    r.serve cell stream = r.serve cell stream' := by
  cases hi with
  | @intro before body after start whole noise =>
    rw [serve, serve, Text.lines_append start, Text.lines_append start, Text.lines_line whole,
      onLines_append, onLines_append]
    rw [← onLines_size h cell (Text.lines before)] at noise
    simp only [onLines, onLine_of_noise noise, Option.toList_none, List.nil_append]

end Receiver

/-! ### Slot numbers -/

namespace Message

variable {number : Nat} {message : Message}

/-- The slot number of a message. -/
def number? : Message → Option Nat
  | slot number _ | qr number => some number
  | _ => none

theorem one_le_of_readSlot {value : List Char} (h : readSlot value = .ok number) : 1 ≤ number := by
  unfold readSlot at h
  split at h
  · cases h
    omega
  · cases h

theorem one_le_of_ofTrimmed {line : List Char} (h : ofTrimmed line = .ok message)
    (hn : message.number? = some number) : 1 ≤ number := by
  unfold ofTrimmed at h
  dsimp only at h
  repeat' split at h
  -- refused lines, then messages without a slot number
  any_goals cases h
  any_goals cases hn
  · rename_i rest _ _ _ _
    cases hslot : readSlot rest with
    | error fault =>
      rw [hslot] at h
      cases h
    | ok found =>
      rw [hslot] at h
      cases h
      cases hn
      exact one_le_of_readSlot hslot
  · rename_i flag _ _ _ found hslot
    cases hflag : readFlag flag with
    | error fault =>
      rw [hflag] at h
      cases h
    | ok present =>
      rw [hflag] at h
      cases h
      cases hn
      exact one_le_of_readSlot hslot

/-- Slot numbers on the wire are counted from one. -/
theorem one_le_of_ofLine {line : String} (h : ofLine line = .ok message)
    (hn : message.number? = some number) : 1 ≤ number := one_le_of_ofTrimmed h hn

end Message

theorem Receiver.one_le_of_messageOf? {line : List UInt8} {message : Message} {number : Nat}
    (h : messageOf? line = some message) (hn : message.number? = some number) : 1 ≤ number := by
  obtain ⟨text, -, hread⟩ := Option.bind_eq_some_iff.mp h
  cases hline : Message.ofLine text with
  | error fault =>
    rw [hline] at hread
    cases hread
  | ok read =>
    rw [hline] at hread
    cases hread
    exact Message.one_le_of_ofLine hline hn

/-! ### Listeners -/

/-- The listeners do the same with each of the first `n` slots. -/
structure SlotListener.AgreeBelow (n : Nat) (l l' : SlotListener Changer) : Prop where
  identified : ∀ c slot id, slot < n → l.identified c slot id = l'.identified c slot id
  presence : ∀ c slot present, slot < n → l.presence c slot present = l'.presence c slot present

/-- The buses have the same handlers, and their listeners differ beyond slot `n` only. -/
structure Bus.AgreeBelow (n : Nat) (b b' : Bus Changer) : Prop where
  handlers : b.handlers = b'.handlers
  listeners : List.Forall₂ (fun entry entry' => entry.2.AgreeBelow n entry'.2) b.listeners
    b'.listeners

namespace Bus.AgreeBelow

variable {n : Nat} {b b' : Bus Changer}

theorem dispatch (h : b.AgreeBelow n b') (c : Changer) (outcome : Outcome) (tag : String)
    (arg : Option String) : b.dispatch c outcome tag arg = b'.dispatch c outcome tag arg := by
  rw [Bus.dispatch, Bus.dispatch, h.handlers]

theorem identified (h : b.AgreeBelow n b') {slot : Nat} (hslot : slot < n) (c : Changer)
    (id : String) : b.identified c slot id = b'.identified c slot id := by
  have hall := h.listeners
  unfold Bus.identified
  generalize b.listeners = listeners, b'.listeners = listeners' at hall
  induction hall generalizing c with
  | nil => rfl
  | cons hfirst _ ih =>
    rw [List.foldl_cons, List.foldl_cons, hfirst.identified c slot id hslot]
    exact ih _

theorem presence (h : b.AgreeBelow n b') {slot : Nat} (hslot : slot < n) (c : Changer)
    (present : Bool) : b.presence c slot present = b'.presence c slot present := by
  have hall := h.listeners
  unfold Bus.presence
  generalize b.listeners = listeners, b'.listeners = listeners' at hall
  induction hall generalizing c with
  | nil => rfl
  | cons hfirst _ ih =>
    rw [List.foldl_cons, List.foldl_cons, hfirst.presence c slot present hslot]
    exact ih _

end Bus.AgreeBelow

namespace Receiver

variable {κ : Type} {r : Receiver κ} {b : Bus Changer}

/-- The receiver on another bus. -/
def onBus (r : Receiver κ) (b : Bus Changer) : Receiver κ := { r with bus := b }

theorem handle_of_agree {cell : Cell κ} (h : r.bus.AgreeBelow cell.changer.magazine.size b)
    {message : Message} (hn : ∀ number, message.number? = some number → 1 ≤ number) :
    r.handle cell message = (r.onBus b).handle cell message := by
  cases message with
  | slot number present =>
    simp only [handle, onSlot, onBus]
    by_cases hlt : cell.changer.magazine.size < number
    · rw [if_pos hlt, if_pos hlt]
    · have hone := hn number rfl
      rw [if_neg hlt, if_neg hlt, h.presence (by omega)]
  | qr number =>
    simp only [handle, onCode, onBus]
    by_cases hlt : cell.changer.magazine.size < number
    · rw [if_pos hlt, if_pos hlt]
    · have hone := hn number rfl
      have hscan : r.scanSlot cell number = (r.onBus b).scanSlot cell number := by
        simp only [scanSlot, onBus, h.identified (show number - 1 < _ by omega)]
      rw [if_neg hlt, if_neg hlt]
      cases cell.changer.state with
      | movingToScanPos | movingToScanPosMounted => exact congrArg (·, none) hscan
      | _ => rfl
  | get key => rfl
  | ok => simp only [handle, onOk, onBus, h.dispatch]
  | error text => simp only [handle, onError, onBus, h.dispatch]

theorem onLine_of_agree {cell : Cell κ} (h : r.bus.AgreeBelow cell.changer.magazine.size b)
    (line : List UInt8) : r.onLine cell line = (r.onBus b).onLine cell line := by
  unfold onLine
  split
  · rfl
  · rename_i message hmessage
    exact handle_of_agree h fun number => one_le_of_messageOf? hmessage

/-- What the listeners do with slots beyond the last one does not matter. -/
theorem serve_of_agree (hr : r.bus.KeepsSize) {cell : Cell κ}
    (h : r.bus.AgreeBelow cell.changer.magazine.size b) (stream : List UInt8) :
    r.serve cell stream = (r.onBus b).serve cell stream := by
  unfold serve
  generalize Text.lines stream = lines
  induction lines generalizing cell with
  | nil => rfl
  | cons line lines ih =>
    have hline := onLine_of_agree h line
    rw [← onLine_size hr cell line] at h
    simp only [onLines, ← hline, ← ih h]

end Receiver

/-- **Noise is inaudible.**  A connection of the robot delivers a stream, and nothing on the bus
changes the number of slots.  With lines of noise put in or left out, wherever a line begins and as
many as one likes, the changer, the camera and the replies are the same after it.  In any stream,
slots are counted from one, and the listeners on the bus may be exchanged for others that do the same
with the slots of the magazine: they are not called for any other slot. -/
theorem noise_is_inaudible {κ : Type} {r : Receiver κ} (h : r.bus.KeepsSize) (cell : Cell κ) :
    (∀ stream stream',
      Relation.EqvGen (Inserted cell.changer.magazine.size) stream stream' →
        r.serve cell stream = r.serve cell stream') ∧
      (∀ line message number, Receiver.messageOf? line = some message →
        message.number? = some number → 1 ≤ number) ∧
      ∀ b, r.bus.AgreeBelow cell.changer.magazine.size b → ∀ stream,
        r.serve cell stream = (r.onBus b).serve cell stream := by
  refine ⟨?_, fun line message number => Receiver.one_le_of_messageOf?, fun b hb =>
    Receiver.serve_of_agree h hb⟩
  intro stream stream' halike
  induction halike with
  | rel _ _ hinserted => exact Receiver.serve_of_inserted h hinserted
  | refl _ => rfl
  | symm _ _ _ ih => exact ih.symm
  | trans _ _ _ _ _ ih ih' => exact ih.trans ih'

/-- The camera counts its pictures, and shows a label on each. -/
def countingReceiver : Receiver Nat := ⟨ownBus, fun frames => (frames + 1, some "A")⟩

/-- A scan of two slots has begun. -/
def scanningTwo : Changer := (Changer.ofSize 2).run [.command .scan willing]

/-- The lines `QR:1` and `GET s`. -/
def quietStream : List UInt8 := [81, 82, 58, 49, 10, 71, 69, 84, 32, 115, 10]

/-- In front of them stands a line that is no text, between them `QR:3`, and behind them a blank
line. -/
def noisyStream : List UInt8 :=
  [255, 10, 81, 82, 58, 49, 10, 81, 82, 58, 51, 10, 71, 69, 84, 32, 115, 10, 9, 13, 10]

theorem noise_is_inaudible_scan :
    countingReceiver.bus.KeepsSize ∧
      Relation.EqvGen (Inserted scanningTwo.magazine.size) noisyStream quietStream ∧
      countingReceiver.serve ⟨scanningTwo, 0⟩ noisyStream
        = countingReceiver.serve ⟨scanningTwo, 0⟩ quietStream ∧
      (countingReceiver.serve ⟨scanningTwo, 0⟩ noisyStream).1.camera = 1 ∧
      (countingReceiver.serve ⟨scanningTwo, 0⟩ noisyStream).2 = ["s 1\n"] := by
  have hkeeps : countingReceiver.bus.KeepsSize := Bus.Harmless.empty.subscribe.keepsSize
  have hsize : scanningTwo.magazine.size = 2 := by decide +kernel
  have hbinary : Noise 2 [255, 10] := .binary (by decide +kernel)
  have hthree : Text.decode [81, 82, 58, 51, 10] = some "QR:3\n" := by decide +kernel
  have hbeyond : Noise 2 [81, 82, 58, 51, 10] := .code hthree rfl (by decide : 2 < 3)
  have hblanks : Text.decode [9, 13, 10] = some "\t\r\n" := by decide +kernel
  have hblank : Noise 2 [9, 13, 10] := .blank hblanks (by decide)
  have halike : Relation.EqvGen (Inserted scanningTwo.magazine.size) noisyStream quietStream := by
    rw [hsize]
    have hfirst : Inserted 2 quietStream _ :=
      @Inserted.intro 2 [81, 82, 58, 49, 10] [81, 82, 58, 51] [71, 69, 84, 32, 115, 10]
        (Or.inr rfl) (by decide) hbeyond
    have hsecond := @Inserted.intro 2 [] [255]
      ([81, 82, 58, 49, 10] ++ [81, 82, 58, 51, 10] ++ [71, 69, 84, 32, 115, 10])
      (Or.inl rfl) (by decide) hbinary
    have hthird : Inserted 2 _ noisyStream := @Inserted.intro 2
      ([255, 10] ++ [81, 82, 58, 49, 10] ++ [81, 82, 58, 51, 10] ++ [71, 69, 84, 32, 115, 10]) [9, 13]
      [] (Or.inr rfl) (by decide) hblank
    have hlast := Relation.EqvGen.trans _ _ _ (.rel _ _ hsecond) (.rel _ _ hthird)
    exact .symm _ _ (.trans _ _ _ (.rel _ _ hfirst) hlast)
  have hsame := (noise_is_inaudible hkeeps ⟨scanningTwo, 0⟩).1 _ _ halike
  refine ⟨hkeeps, halike, hsame, ?_, ?_⟩
  · rw [hsame]
    decide +kernel
  · rw [hsame]
    decide +kernel

end Autosampler

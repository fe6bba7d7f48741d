import Autosampler.Proofs.Consistency
import Autosampler.Proofs.Noise
import Autosampler.Proofs.Replay
import Mathlib.Data.List.DropRight

/-!
# Connections lost in the middle of a line

When a connection ends, what stands behind the last newline is handled like a line.  Whether that
does anything depends on what is left of the line: the start of a message may be a message itself.

* `Text.finished`, `Text.unfinished` — the whole lines of a stream, and what stands behind them;
* `Machine.MovedBy`, `Machine.hear_eq_iff` — when a message moves the machine;
* `Changer.ActsOn`, `Consistent.sameStores_hear_iff` — when a message leaves anything behind;
* `Receiver.serve_eq` — the rest of a lost line is handled after the whole lines;
* `cut_line_harmless_iff` — when a connection can be lost at a place of its stream without harm.
-/

namespace Autosampler

/-! ### Whole lines -/

namespace Text

/-- The whole lines of a stream, up to its last newline. -/
def finished (stream : List UInt8) : List UInt8 := stream.rdropWhile (· ≠ newline)

/-- What stands behind the last newline of a stream. -/
def unfinished (stream : List UInt8) : List UInt8 := stream.rtakeWhile (· ≠ newline)

variable {rest : List UInt8}

theorem finished_append_unfinished (stream : List UInt8) :
    finished stream ++ unfinished stream = stream := List.rdropWhile_append_rtakeWhile

theorem newline_not_mem_unfinished (stream : List UInt8) : newline ∉ unfinished stream := by
  intro h
  simpa using List.mem_rtakeWhile_imp h

theorem lineStart_finished (stream : List UInt8) : LineStart (finished stream) := by
  by_cases h : finished stream = []
  · exact Or.inl h
  · have hlast := List.rdropWhile_last_not _ _ h
    refine Or.inr ?_
    rw [List.getLast?_eq_some_getLast h]
    simpa [finished] using hlast

/-- What stands behind the last newline is one line more, if it is anything. -/
theorem lines_of_unfinished (h : newline ∉ rest) :
    lines rest = if rest = [] then [] else [rest] := by
  induction rest with
  | nil => rfl
  | cons b rest ih =>
    have hb : b ≠ newline := fun heq => h (heq ▸ List.mem_cons_self)
    rw [lines, if_neg hb, ih fun hmem => h (List.mem_cons_of_mem b hmem),
      if_neg (List.cons_ne_nil b rest)]
    cases rest <;> rfl

end Text

namespace Receiver

variable {κ : Type} {r : Receiver κ}

theorem onLines_lines_unfinished {rest : List UInt8} (h : Text.newline ∉ rest) (cell : Cell κ) :
    (r.onLines cell (Text.lines rest)).1 = (r.onLine cell rest).1 := by
  rw [Text.lines_of_unfinished h]
  cases rest with
  | nil => rfl
  | cons b rest => rfl

/-- The rest of a lost line comes after the whole lines. -/
theorem serve_eq (r : Receiver κ) (cell : Cell κ) (stream : List UInt8) :
    (r.serve cell stream).1
      = (r.onLine (r.serve cell (Text.finished stream)).1 (Text.unfinished stream)).1 := by
  conv_lhs => rw [← Text.finished_append_unfinished stream]
  rw [serve, Text.lines_append (Text.lineStart_finished stream), onLines_append]
  exact onLines_lines_unfinished (Text.newline_not_mem_unfinished stream) _

end Receiver

/-! ### Messages that move the machine -/

namespace Machine

variable {m : Machine} {event : Event} {args : FireArgs}

theorem count_lt_of_allows (args : FireArgs) (h : m.allows event = true) :
    m.count < (m.fire event args).machine.count := by
  have hburst := m.burst_fire event args
  generalize m.fire event args = fired at hburst ⊢
  cases hburst with
  | refused forbidden =>
    rw [allows, forbidden] at h
    cases h
  | single took =>
    rw [took.count]
    exact Nat.lt_succ_self _
  | double first second =>
    rw [second.count, first.count]
    omega

theorem count_le_fire : m.count ≤ (m.fire event args).machine.count := by
  rw [(m.burst_fire event args).count]
  exact Nat.le_add_right _ _

/-- A machine that stays as it is has refused the event. -/
theorem fire_machine_eq_iff : (m.fire event args).machine = m ↔ m.allows event = false := by
  constructor
  · intro h
    by_contra hallows
    have hlt := count_lt_of_allows args (by simpa using hallows)
    rw [h] at hlt
    exact Nat.lt_irrefl _ hlt
  · intro h
    rw [fire_refused (by simpa [allows] using h)]

/-- The message moves the machine of a changer with `size` slots. -/
def MovedBy (size : Nat) (m : Machine) : Message → Prop
  | .slot slot _ => slot ≤ size ∧ m.allows (stepAfter size slot .finishedPresenceDetection)
  | .qr slot => slot ≤ size ∧ (m.state = .movingToScanPos ∨ m.state = .movingToScanPosMounted)
  | .ok => m.allows .programFinished
  | .get _ | .error _ => False

theorem hear_eq_iff {size : Nat} (message : Message) :
    (m.hear size message).1 = m ↔ ¬m.MovedBy size message := by
  cases message with
  | slot slot present =>
    by_cases hsize : size < slot
    · simp [hear, MovedBy, hsize, Nat.not_le_of_gt hsize]
    · simp [hear, MovedBy, hsize, Nat.le_of_not_lt hsize, advance, fire_machine_eq_iff]
  | qr slot =>
    by_cases hsize : size < slot
    · simp [hear, MovedBy, hsize, Nat.not_le_of_gt hsize]
    by_cases hstate : m.state = .movingToScanPos ∨ m.state = .movingToScanPosMounted
    · have hallows : m.allows .atScanPos = true := by
        rcases hstate with hstate | hstate <;> simp [allows, hstate] <;> rfl
      have hmoved : (m.scanSlot size slot).1 ≠ m := by
        intro heq
        have hreached : m.count < (m.advance .atScanPos).machine.count :=
          count_lt_of_allows _ hallows
        have hpassed : (m.advance .atScanPos).machine.count ≤ (m.scanSlot size slot).1.count :=
          count_le_fire
        rw [heq] at hpassed
        omega
      simp [hear, MovedBy, hsize, Nat.le_of_not_lt hsize, hstate, hmoved]
    · simp [hear, MovedBy, hsize, hstate]
  | ok => simp [hear, MovedBy, fire_machine_eq_iff]
  | get key => simp [hear, MovedBy]
  | error text => simp [hear, MovedBy]

end Machine

/-! ### Messages that leave anything behind -/

namespace Changer

variable {c d : Changer}

/-- Machine, magazine and measurement position are the same. -/
structure SameStores (c d : Changer) : Prop where
  machine : c.machine = d.machine
  magazine : c.magazine = d.magazine
  mounted : c.mounted = d.mounted

instance (c d : Changer) : Decidable (c.SameStores d) :=
  decidable_of_iff (c.machine = d.machine ∧ c.magazine = d.magazine ∧ c.mounted = d.mounted)
    ⟨fun ⟨hm, hg, hp⟩ => ⟨hm, hg, hp⟩, fun h => ⟨h.machine, h.magazine, h.mounted⟩⟩

/-- The message is news on a slot. -/
def LearnsFrom (c : Changer) : Message → Prop
  | .slot slot present =>
    slot ≤ c.magazine.size ∧ c.seen (slot - 1) present ≠ c.magazine.slots[slot - 1]?
  | _ => False

/-- The message moves the machine or is news on a slot. -/
def ActsOn (c : Changer) (message : Message) : Prop :=
  c.machine.MovedBy c.magazine.size message ∨ c.LearnsFrom message

/-- A report that is no news changes nothing. -/
theorem notePresence_of_known {slot : Nat} {present : Bool}
    (h : c.seen slot present = c.magazine.slots[slot]?) : (c.notePresence slot present).1 = c := by
  unfold notePresence
  by_cases hr : c.reserved slot = true
  · rw [if_pos hr]
  rw [if_neg hr]
  cases hheld : c.magazine.slots[slot]? with
  | none =>
    simp only [Magazine.setPresence, hheld, Except.map, adopt]
  | some held =>
    rw [seen_of_not_reserved (by simpa using hr) hheld, hheld] at h
    rw [Magazine.setPresence_fst hheld, Option.some.inj h]
    show { c with magazine := c.magazine.put slot held } = c
    rw [Magazine.put_held hheld]

theorem hear_slot_of_idle {slot : Nat} {present : Bool} (h : ¬c.ActsOn (.slot slot present))
    (label : Option String) : c.hear (.slot slot present) label = c := by
  rw [hear_slot]
  by_cases hsize : c.magazine.size < slot
  · exact if_pos hsize
  have hle := Nat.le_of_not_lt hsize
  have hknown : c.seen (slot - 1) present = c.magazine.slots[slot - 1]? :=
    Classical.not_not.mp fun hnews => h (Or.inr ⟨hle, hnews⟩)
  have hrefused : (c.stepAfter slot .finishedPresenceDetection).target? c.state = none :=
    Option.not_isSome_iff_eq_none.mp fun hallows => h (Or.inl ⟨hle, hallows⟩)
  rw [if_neg hsize, notePresence_of_known hknown, advance, fire_refused hrefused]

theorem hear_code_of_idle {slot : Nat} (h : ¬c.ActsOn (.qr slot)) (label : Option String) :
    c.hear (.qr slot) label = c := by
  rw [hear_code]
  by_cases hsize : c.magazine.size < slot
  · exact if_pos hsize
  · have haway : ¬(c.state = .movingToScanPos ∨ c.state = .movingToScanPosMounted) :=
      fun hs => h (Or.inl ⟨Nat.le_of_not_lt hsize, hs⟩)
    rw [if_neg hsize, if_neg haway]

end Changer

namespace Consistent

variable {c : Changer} {message : Message}

/-- An acknowledgement that keeps the state may still end a pending program. -/
theorem hear_ok_of_kept (hc : Consistent c) (label : Option String)
    (hstate : (c.hear .ok label).state = c.state) :
    c.hear .ok label = c ∨ c.hear .ok label = c.dropPending := by
  have hupshot := hc.acknowledged label
  generalize c.hear .ok label = after at hupshot hstate
  cases hupshot with
  | rest _ => exact Or.inl rfl
  | early _ => exact Or.inr rfl
  | switch switching _ =>
    rw [switching] at hstate
    cases hstate
  | home busy _ _ _ =>
    rw [← hstate] at busy
    cases busy
  | homeMounted busy _ =>
    rw [← hstate] at busy
    cases busy

/-- What a message without effect may still end is a pending program. -/
theorem hear_of_idle (hc : Consistent c) (h : ¬c.ActsOn message) (label : Option String) :
    c.hear message label = c ∨ c.hear message label = c.dropPending := by
  cases message with
  | slot slot present => exact Or.inl (Changer.hear_slot_of_idle h label)
  | qr slot => exact Or.inl (Changer.hear_code_of_idle h label)
  | get key => exact Or.inl rfl
  | ok =>
    have hmachine : (c.hear .ok label).machine = c.machine := by
      rw [(c.hear_follows .ok label).machine]
      exact (Machine.hear_eq_iff .ok).mpr fun hmoved => h (Or.inl hmoved)
    exact hc.hear_ok_of_kept label (congrArg Machine.state hmachine)
  | error text => exact Changer.hear_error_eq text label

theorem sameStores_hear_iff (hc : Consistent c) (label : Option String) :
    c.SameStores (c.hear message label) ↔ ¬c.ActsOn message := by
  constructor
  · intro h hacts
    rcases hacts with hmoved | hlearns
    · refine (Machine.hear_eq_iff message).mp ?_ hmoved
      rw [← (c.hear_follows message label).machine, ← h.machine]
    · cases message with
      | slot slot present =>
        obtain ⟨hsize, hnews⟩ := hlearns
        have hmagazine : (c.hear (.slot slot present) label).magazine
            = (c.notePresence (slot - 1) present).1.magazine := by
          rw [Changer.hear_slot, if_neg (Nat.not_lt_of_le hsize)]
          rfl
        have hslots := c.getElem?_notePresence (slot - 1) present (slot - 1)
        rw [if_pos rfl, ← hmagazine, ← h.magazine] at hslots
        exact hnews hslots.symm
      | _ => exact hlearns
  · intro h
    rcases hc.hear_of_idle h label with heq | heq
    · rw [heq]
      exact ⟨rfl, rfl, rfl⟩
    · rw [heq]
      exact ⟨rfl, rfl, rfl⟩

end Consistent

/-! ### Lost connections -/

namespace Receiver

variable {κ : Type} {r : Receiver κ} {cell : Cell κ}

theorem consistent_onLine (hb : r.bus = ownBus) (hc : Consistent cell.changer)
    (line : List UInt8) : Consistent (r.onLine cell line).1.changer := by
  unfold onLine
  split
  · exact hc
  · rw [handle_changer r hb]
    exact hc.hear _ _

theorem consistent_onLines (hb : r.bus = ownBus) (hc : Consistent cell.changer)
    (lines : List (List UInt8)) : Consistent (r.onLines cell lines).1.changer := by
  induction lines generalizing cell with
  | nil => exact hc
  | cons line lines ih => exact ih (consistent_onLine hb hc line)

theorem sameStores_onLine_iff (hb : r.bus = ownBus) (hc : Consistent cell.changer)
    (line : List UInt8) :
    cell.changer.SameStores (r.onLine cell line).1.changer ↔
      ∀ message, messageOf? line = some message → ¬cell.changer.ActsOn message := by
  cases hmessage : messageOf? line with
  | none =>
    simp only [onLine, hmessage]
    exact ⟨fun _ message heq => (Option.some_ne_none message heq.symm).elim,
      fun _ => ⟨rfl, rfl, rfl⟩⟩
  | some message =>
    simp only [onLine, hmessage]
    rw [handle_changer r hb, hc.sameStores_hear_iff]
    exact ⟨fun h other heq => Option.some.inj heq ▸ h, fun h => h message rfl⟩

end Receiver

/-- **A lost connection does nothing unless the rest of its line is a message that counts.**  A
connection to a changer with consistent stores is lost at any place of any stream.  Machine,
magazine and measurement position are then as after the whole lines before that place, exactly if
what stands behind the last newline is no message, or one that neither moves the machine nor is
news on a slot. -/
theorem cut_line_harmless_iff {κ : Type} {r : Receiver κ} (hb : r.bus = ownBus) {cell : Cell κ}
    (hc : Consistent cell.changer) (stream : List UInt8) (place : Nat) :
    let delivered := stream.take place
    let whole := (r.serve cell (Text.finished delivered)).1.changer
    whole.SameStores (r.serve cell delivered).1.changer ↔
      ∀ message, Receiver.messageOf? (Text.unfinished delivered) = some message →
        ¬whole.ActsOn message := by
  intro delivered whole
  rw [Receiver.serve_eq r cell delivered]
  exact Receiver.sameStores_onLine_iff hb
    (Receiver.consistent_onLines hb hc (Text.lines (Text.finished delivered)))
    (Text.unfinished delivered)

/-- A scan of twelve slots has begun. -/
def scanningTwelve : Changer := (Changer.ofSize 12).run [.command .scan willing]

/-- The line `QR:12`. -/
def codeTwelve : List UInt8 := [81, 82, 58, 49, 50, 10]

/-- The lines `QR:12` and `ok:1`. -/
def codeAndAcknowledgement : List UInt8 := codeTwelve ++ [111, 107, 58, 49, 10]

/-- The first line is lost before its number, and what is left is no message; then the second one is,
and what is left is an acknowledgement that has no effect after the last slot was looked at. -/
theorem cut_line_harmless_iff_before_number :
    countingReceiver.bus = ownBus ∧ Consistent scanningTwelve ∧
      scanningTwelve.SameStores
        (countingReceiver.serve ⟨scanningTwelve, 0⟩ (codeTwelve.take 3)).1.changer ∧
      let delivered := codeAndAcknowledgement.take 8
      let whole := (countingReceiver.serve ⟨scanningTwelve, 0⟩ (Text.finished delivered)).1.changer
      Receiver.messageOf? (Text.unfinished delivered) = some .ok ∧
        whole.state = .presenceDetection ∧
        whole.SameStores (countingReceiver.serve ⟨scanningTwelve, 0⟩ delivered).1.changer := by
  have hc : Consistent scanningTwelve := (Consistent.ofSize 12).run _
  have hcell : Consistent (⟨scanningTwelve, 0⟩ : Cell Nat).changer := hc
  have hnone : Receiver.messageOf? (Text.unfinished (codeTwelve.take 3)) = none := by
    decide +kernel
  have hok : Receiver.messageOf? (Text.unfinished (codeAndAcknowledgement.take 8)) = some .ok := by
    decide +kernel
  refine ⟨rfl, hc, ?_, hok, ?_, ?_⟩
  · refine (cut_line_harmless_iff (r := countingReceiver) rfl hcell codeTwelve 3).mpr ?_
    intro message h
    rw [hnone] at h
    cases h
  · decide +kernel
  · refine (cut_line_harmless_iff (r := countingReceiver) rfl hcell codeAndAcknowledgement 8).mpr ?_
    intro message h
    rw [hok] at h
    cases h
    -- between two reports no program can end
    rintro (hmoved | hlearns)
    · revert hmoved
      unfold Machine.MovedBy
      decide +kernel
    · exact hlearns

/-- The line is lost in its number, and the sample in front of the camera goes to the first slot. -/
theorem cut_number_is_another_slot :
    let delivered := codeTwelve.take 4
    let whole := (countingReceiver.serve ⟨scanningTwelve, 0⟩ (Text.finished delivered)).1.changer
    let lost := (countingReceiver.serve ⟨scanningTwelve, 0⟩ delivered).1.changer
    Consistent scanningTwelve ∧ whole = scanningTwelve ∧ ¬whole.SameStores lost ∧
      lost.magazine.slots[0]? = some "A" := by
  refine ⟨(Consistent.ofSize 12).run _, ?_, ?_, ?_⟩
  all_goals decide +kernel

end Autosampler

import Autosampler.Proofs.Slots
import Autosampler.Proofs.Transitions
import Autosampler.Receiver

/-!
# Messages on the changer's own bus

With nothing but the changer's own handlers on the bus, a message of the robot is a function on
the changer.  The camera matters only through the one label that a message may look for.

* `ownBus`, `Changer.hear` — the bus with the bookkeeping alone, and a message handled on it;
* `Receiver.handle_changer` — every receiver on this bus hears, whatever camera it has;
* `Changer.dispatch_of_not_mem`, `Changer.dispatch_error` — the handlers found by a tag;
* `Changer.notePresence_fst` and its kin — which parts of the changer the books touch;
* `Changer.reserved_iff`, `Changer.seen` — reserved slots, and what a report leaves in a slot;
* `Changer.hear_slot`, `Changer.hear_code`, `Changer.hear_ok` — the messages in closed form.
-/

namespace Autosampler

/-- The bus with the changer's own bookkeeping and nothing else. -/
def ownBus : Bus Changer := Changer.subscribe {}

namespace Changer

variable {c : Changer} {arg : Option String}

/-- A message of the robot handled on the own bus.  If it looks through the camera, it sees
`label`. -/
def hear (c : Changer) (message : Message) (label : Option String) : Changer :=
  ((⟨ownBus, fun _ => ((), label)⟩ : Receiver Unit).handle ⟨c, ()⟩ message).1.changer

end Changer

/-- A camera is no more to the changer than the label that it would show now. -/
theorem Receiver.handle_changer {κ : Type} (r : Receiver κ) (hb : r.bus = ownBus) (cell : Cell κ)
    (message : Message) :
    (r.handle cell message).1.changer
      = cell.changer.hear message (r.look cell.camera).2 := by
  cases message with
  | slot slot present => simp only [handle, Changer.hear, onSlot, hb]
  | qr slot =>
    simp only [handle, Changer.hear, onCode, scanSlot, hb]
    by_cases hlen : cell.changer.magazine.size < slot
    · rw [if_pos hlen, if_pos hlen]
    · rw [if_neg hlen, if_neg hlen]
      cases cell.changer.state <;> rfl
  | get key => rfl
  | ok => simp only [handle, Changer.hear, onOk, hb]
  | error text => simp only [handle, Changer.hear, onError, hb]

namespace Changer

variable {c : Changer} {arg : Option String}

/-! ### Handlers by tag -/

/-- Under the tag of no program there is no handler. -/
theorem dispatch_of_not_mem {outcome : Outcome} {tag : String} (h : tag ∉ programTags) :
    (ownBus.dispatch c outcome tag arg).1 = c := by
  have hnone : (ownBus.handlers.filter fun h => h.outcome = outcome ∧ h.tag = tag) = [] := by
    rw [List.filter_eq_nil_iff]
    intro handler hmem
    have htag : handler.tag ∈ programTags := by
      have hall : ∀ t ∈ ownBus.handlers.map Handler.tag, t ∈ programTags := by decide
      exact hall _ (List.mem_map_of_mem hmem)
    intro hboth
    have : handler.tag = tag := (of_decide_eq_true hboth).2
    exact h (this ▸ htag)
  rw [Bus.dispatch, hnone]
  rfl

/-- A bad acknowledgement under the tag of a program ends that program. -/
theorem dispatch_error {tag : String} (h : tag ∈ programTags) :
    (ownBus.dispatch c .error tag arg).1 = c.dropPending := by
  simp only [programTags, List.mem_cons, List.not_mem_nil, or_false] at h
  rcases h with rfl | rfl | rfl | rfl | rfl | rfl | rfl <;> rfl

/-! ### What the books touch -/

theorem adopt_fst (change : Except MagazineError Magazine) :
    ∃ magazine, (c.adopt change).1 = { c with magazine := magazine } := by
  cases change with
  | ok magazine => exact ⟨magazine, rfl⟩
  | error e => exact ⟨c.magazine, rfl⟩

theorem notePresence_fst (slot : Nat) (present : Bool) :
    ∃ magazine, (c.notePresence slot present).1 = { c with magazine := magazine } := by
  unfold notePresence
  split
  · exact ⟨c.magazine, rfl⟩
  · exact adopt_fst _

theorem noteSample_fst (slot : Nat) (id : String) :
    ∃ magazine, (c.noteSample slot id).1 = { c with magazine := magazine } := by
  unfold noteSample
  split
  · exact ⟨c.magazine, rfl⟩
  · exact adopt_fst _

theorem finishLoad_fst :
    ∃ magazine, c.finishLoad.1 = { c with magazine := magazine, pending := none } := by
  unfold finishLoad
  split
  · exact adopt_fst _
  · exact ⟨c.magazine, rfl⟩

theorem finishUnload_fst :
    ∃ magazine, c.finishUnload.1 = { c with magazine := magazine, pending := none } := by
  unfold finishUnload
  split
  · split
    · exact adopt_fst _
    · exact ⟨c.magazine, rfl⟩
  · exact ⟨c.magazine, rfl⟩

theorem finishUnmount_fst : c.finishUnmount.1 = { c with mounted := none, pending := none } := rfl

/-! ### Reports on a slot -/

section Reports

variable {d : Changer} {slot : Nat} {flag : Bool}

/-- A slot is reserved exactly if it holds the mounted sample. -/
theorem reserved_iff :
    c.reserved slot = true ↔
      ∃ id, c.mounted = some id ∧ c.magazine.slots[slot]? = some id ∧ id ≠ "" := by
  unfold reserved
  split
  · rename_i id held hm hsample
    obtain ⟨hheld, hne⟩ := Magazine.sampleAt_eq_some.mp hsample
    rw [decide_eq_true_iff]
    constructor
    · rintro rfl
      exact ⟨id, hm, hheld, hne⟩
    · rintro ⟨other, hm', hheld', -⟩
      rw [hm] at hm'
      rw [hheld] at hheld'
      exact (Option.some.inj hm').trans (Option.some.inj hheld').symm
  · rename_i hnone
    constructor
    · intro h
      cases h
    · rintro ⟨id, hm, hheld, hne⟩
      exact absurd (Magazine.sampleAt_eq_some.mpr ⟨hheld, hne⟩) (hnone id id hm)

theorem reserved_of_mounted_eq_none (hm : c.mounted = none) (slot : Nat) :
    c.reserved slot = false := by simp [reserved, hm]

theorem reserved_congr (hm : d.mounted = c.mounted)
    (hslot : d.magazine.slots[slot]? = c.magazine.slots[slot]?) :
    d.reserved slot = c.reserved slot := by
  rw [Bool.eq_iff_iff, reserved_iff, reserved_iff, hm, hslot]

/-- What a report leaves in a slot of the magazine. -/
def seen (c : Changer) (slot : Nat) (flag : Bool) : Option String :=
  c.magazine.slots[slot]?.map fun held => if c.reserved slot then held else sight slot held flag

theorem seen_congr (hm : d.mounted = c.mounted)
    (hslot : d.magazine.slots[slot]? = c.magazine.slots[slot]?) :
    d.seen slot flag = c.seen slot flag := by
  rw [seen, seen, reserved_congr hm hslot, hslot]

theorem seen_of_reserved (hr : c.reserved slot = true) :
    c.seen slot flag = c.magazine.slots[slot]? := by
  simp [seen, hr]

theorem seen_of_not_reserved {held : String} (hr : c.reserved slot = false)
    (hheld : c.magazine.slots[slot]? = some held) :
    c.seen slot flag = some (sight slot held flag) := by
  simp [seen, hr, hheld]

theorem seen_of_mounted_eq_none (hm : c.mounted = none) (slot : Nat) (present : Bool) :
    c.seen slot present = c.magazine.slots[slot]?.map (sight slot · present) := by
  simp [seen, reserved_of_mounted_eq_none hm]

/-- What a report leaves in each slot. -/
theorem getElem?_notePresence (c : Changer) (number : Nat) (present : Bool) (slot : Nat) :
    (c.notePresence number present).1.magazine.slots[slot]?
      = if number = slot then c.seen number present else c.magazine.slots[slot]? := by
  unfold notePresence
  by_cases hr : c.reserved number = true
  · rw [if_pos hr, seen_of_reserved hr]
    split
    · rename_i hslot
      rw [hslot]
    · rfl
  rw [if_neg hr]
  cases hheld : c.magazine.slots[number]? with
  | none =>
    simp only [Magazine.setPresence, hheld, Except.map, adopt, seen, Option.map_none]
    split
    · rename_i hslot
      rw [← hslot, hheld]
    · rfl
  | some held =>
    rw [Magazine.setPresence_fst hheld, seen_of_not_reserved (by simpa using hr) hheld]
    show (c.magazine.put number _).slots[slot]? = _
    rw [Magazine.getElem?_put]
    simp only [Magazine.lt_size_of_held hheld, and_true]

end Reports

/-! ### Messages -/

/-- A report on a slot beyond the last one is dropped; else the books come first. -/
theorem hear_slot (slot : Nat) (present : Bool) (label : Option String) :
    c.hear (.slot slot present) label
      = if c.magazine.size < slot then c
        else (c.notePresence (slot - 1) present).1.advance
          (c.stepAfter slot .finishedPresenceDetection) := rfl

/-- What a look at a slot leaves in the magazine. -/
def noteLabel (c : Changer) (slot : Nat) : Option String → Changer
  | some id => (c.noteSample slot id).1
  | none => c

theorem noteLabel_eq (slot : Nat) (label : Option String) :
    ∃ magazine, c.noteLabel slot label = { c with magazine := magazine } := by
  cases label with
  | none => exact ⟨c.magazine, rfl⟩
  | some id => exact noteSample_fst slot id

/-- A code is looked for on the way along the slots, and nowhere else. -/
theorem hear_code (slot : Nat) (label : Option String) :
    c.hear (.qr slot) label
      = if c.magazine.size < slot then c
        else if c.state = .movingToScanPos ∨ c.state = .movingToScanPosMounted then
          let noted := (c.advance .atScanPos).noteLabel (slot - 1) label
          noted.advance (noted.stepAfter slot .finishedScanning)
        else c := by
  by_cases hlen : c.magazine.size < slot
  · simp only [hear, Receiver.handle, Receiver.onCode, if_pos hlen]
  · simp only [hear, Receiver.handle, Receiver.onCode, if_neg hlen]
    cases hs : c.state <;> cases label <;> rfl

/-- First the books under the tag of the program, then the machine. -/
theorem hear_ok (label : Option String) :
    c.hear .ok label
      = ((ownBus.dispatch c .ok c.tagOrEmpty none).1.fire .programFinished {}).1 := rfl

/-- A bad acknowledgement at most ends the pending program. -/
theorem hear_error_eq (text label : Option String) :
    c.hear (.error text) label = c ∨ c.hear (.error text) label = c.dropPending := by
  by_cases h : c.tagOrEmpty ∈ programTags
  · exact Or.inr (dispatch_error h)
  · exact Or.inl (dispatch_of_not_mem h)

end Changer

end Autosampler

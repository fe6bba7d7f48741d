import Autosampler.Text.Numeral

/-!
# The magazine

The magazine is a row of slots, numbered from zero.  A slot holds the identifier of a sample, or
the empty text.  A sample that is known to be present but not yet identified is stored under the
placeholder of its slot.

* `Magazine`, `Magazine.ofSize` — the slots, and the place where the next round goes on;
* `Magazine.slotOf?`, `Magazine.firstFree?`, `Magazine.sampleAt`, `Magazine.occupied` — views;
* `Magazine.insert`, `Magazine.remove`, `Magazine.without`, `Magazine.update`,
  `Magazine.setPresence`, `Magazine.clear` — changes;
* `Magazine.next` — the next occupied slot, going round.
-/

namespace Autosampler

/-! ### Slots and complaints -/

/-- The identifier of a sample that is present in `slot` but not identified. -/
def placeholder (slot : Nat) : String := "@" ++ Text.decimal slot

/-- Why a slot or a sample could not be used. -/
inductive MagazineError where
  | slotOutOfRange (slot size : Nat)
  | slotOccupied (slot : Nat) (id : String)
  | unknownSample (id : String)
  | duplicateSample (id : String) (slot : Nat)
  | emptyIdentifier
deriving DecidableEq

/-- The wording of a complaint about the magazine. -/
def MagazineError.message : MagazineError → String
  | slotOutOfRange slot size =>
      "slot " ++ Text.decimal slot ++ " out of range (magazine has " ++ Text.decimal size
        ++ " slots)"
  | slotOccupied slot id => "slot " ++ Text.decimal slot ++ " already holds sample '" ++ id ++ "'"
  | unknownSample id => "sample '" ++ id ++ "' is not in the magazine"
  | duplicateSample id slot =>
      "sample '" ++ id ++ "' is already stored in slot " ++ Text.decimal slot
  | emptyIdentifier => "sample identifier must not be empty"

/-- The row of slots. -/
structure Magazine where
  /-- What the slots hold; the empty text stands for no sample. -/
  slots : List String
  /-- The slot at which the next round goes on. -/
  cursor : Nat
deriving DecidableEq

namespace Magazine

/-- An empty magazine of `n` slots. -/
def ofSize (n : Nat) : Magazine := ⟨List.replicate n "", 0⟩

/-! ### Views -/

/-- The number of slots. -/
def size (m : Magazine) : Nat := m.slots.length

/-- The slot that holds a sample; no slot holds the empty identifier. -/
def slotOf? (m : Magazine) (id : String) : Option Nat :=
  if id = "" then none else m.slots.idxOf? id

/-- The first slot without a sample. -/
def firstFree? (m : Magazine) : Option Nat := m.slots.idxOf? ""

/-- The sample in a slot of the magazine, if there is one. -/
def sampleAt (m : Magazine) (slot : Nat) : Except MagazineError (Option String) :=
  match m.slots[slot]? with
  | none => .error (.slotOutOfRange slot m.size)
  | some id => .ok (if id = "" then none else some id)

/-- The occupied slots with their samples, in order. -/
def occupied (m : Magazine) : List (Nat × String) :=
  (m.slots.zipIdx.map fun entry => (entry.2, entry.1)).filter fun entry => entry.2 ≠ ""

/-! ### Changes -/

/-- The magazine with `id` in `slot`. -/
def put (m : Magazine) (slot : Nat) (id : String) : Magazine :=
  { m with slots := m.slots.set slot id }

/-- Store a sample in a free slot. -/
def insert (m : Magazine) (slot : Nat) (id : String) : Except MagazineError Magazine :=
  if id = "" then .error .emptyIdentifier
  else
    match m.slots[slot]? with
    | none => .error (.slotOutOfRange slot m.size)
    | some held =>
      if held ≠ "" then .error (.slotOccupied slot held)
      else
        match m.slotOf? id with
        | some other => .error (.duplicateSample id other)
        | none => .ok (m.put slot id)

/-- Take a sample out; the answer is the slot it was in. -/
def remove (m : Magazine) (id : String) : Except MagazineError (Magazine × Nat) :=
  match m.slotOf? id with
  | none => .error (.unknownSample id)
  | some slot => .ok (m.put slot "", slot)

/-- The magazine without a sample, if it was there. -/
def without (m : Magazine) (id : String) : Magazine :=
  match m.remove id with
  | .ok (m', _) => m'
  | .error _ => m

/-- Note the identifier read at a slot. -/
def update (m : Magazine) (slot : Nat) (id : String) : Except MagazineError Magazine :=
  if id = "" then .error .emptyIdentifier
  else
    match m.slots[slot]? with
    | none => .error (.slotOutOfRange slot m.size)
    | some _ =>
      match m.slotOf? id with
      | some other =>
        if other = slot then .ok (m.put slot id) else .error (.duplicateSample id other)
      | none => .ok (m.put slot id)

/-- Note whether a slot holds a sample; the answer says whether that was news. -/
def setPresence (m : Magazine) (slot : Nat) (present : Bool) :
    Except MagazineError (Magazine × Bool) :=
  match m.slots[slot]? with
  | none => .error (.slotOutOfRange slot m.size)
  | some held =>
    if present then
      if held = "" then .ok (m.put slot (placeholder slot), true) else .ok (m, false)
    else
      if held = "" then .ok (m, false) else .ok (m.put slot "", true)

/-- Empty every slot and start the round anew. -/
def clear (m : Magazine) : Magazine := ofSize m.size

/-! ### Going round -/

/-- The first occupied slot among the `left` slots from `start` on, going round. -/
def nextFrom (m : Magazine) (start : Nat) : Nat → Option (Nat × String)
  | 0 => none
  | left + 1 =>
    let slot := start % m.size
    match m.slots[slot]? with
    | some id => if id = "" then nextFrom m (start + 1) left else some (slot, id)
    | none => nextFrom m (start + 1) left

/-- The next occupied slot, going round from the one after the last answer. -/
def next (m : Magazine) : Magazine × Option (Nat × String) :=
  match m.nextFrom m.cursor m.size with
  | none => (m, none)
  | some (slot, id) => ({ m with cursor := (slot + 1) % m.size }, some (slot, id))

end Magazine

end Autosampler

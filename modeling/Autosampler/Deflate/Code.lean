/-!
# Prefix codes of packed data

Packed data is a row of bits.  Its symbols stand in it as words of a prefix code, and a code is
given by the lengths of its words alone: shorter words come first, and words of one length are in
the order of their symbols.

* `Bits`, `bitsOf` — the bits of bytes;
* `Stop`, `Unpacker`, `readNumber` — reading from the front of the bits, and why it stops;
* `Code`, `Code.ofLengths`, `Code.isFull` — a code, and whether its words use up all bits;
* `Code.read` — the symbol at the front of the bits.
-/

namespace Autosampler.Deflate

/-! ### Bits -/

/-- A row of bits. -/
abbrev Bits := List Bool

/-- The bits of a byte, least significant first. -/
def bitsOfByte (b : UInt8) : Bits := (List.range 8).map fun i => b.toNat.testBit i

/-- The bits of bytes. -/
def bitsOf (bytes : List UInt8) : Bits := bytes.flatMap bitsOfByte

/-- Why reading stops. -/
inductive Stop where
  /-- The bits end too early. -/
  | cut
  /-- The bits are no packed data. -/
  | broken
deriving DecidableEq

/-- A step that reads from the front of the bits. -/
abbrev Unpacker := StateT Bits (Except Stop)

/-- The next bit. -/
def readBit : Unpacker Bool
  | [] => .error .cut
  | b :: bits => .ok (b, bits)

/-- A number of some width, least significant bit first. -/
def readNumber : Nat → Unpacker Nat
  | 0 => pure 0
  | width + 1 => do
    let b ← readBit
    let n ← readNumber width
    pure (2 * n + b.toNat)

/-! ### Codes -/

/-- A prefix code. -/
structure Code where
  /-- The number of words of one bit, of two bits, and so on up to the longest. -/
  counts : List Nat
  /-- The symbols in the order of their words. -/
  symbols : Array Nat

/-- The symbols whose words have a certain length. -/
def symbolsOf (lengths : List Nat) (length : Nat) : List Nat :=
  (lengths.zipIdx.filter fun p => p.1 == length).map Prod.snd

namespace Code

/-- The code with the given length of the word of every symbol; a symbol of length zero has no
word. -/
def ofLengths (lengths : List Nat) : Code :=
  let groups := (List.range (lengths.foldl max 0)).map fun i => symbolsOf lengths (i + 1)
  ⟨groups.map List.length, groups.flatten.toArray⟩

/-- Every long enough row of bits starts with exactly one word. -/
def isFull (code : Code) : Bool :=
  code.counts.foldl (fun used count => 2 * used + count) 0 == Nat.pow 2 code.counts.length

/-- The symbol of the word that continues `word`.  The words of its length start at `first`, and
`passed` symbols have shorter words. -/
def readFrom (symbols : Array Nat) : List Nat → Nat → Nat → Nat → Unpacker Nat
  | [], _, _, _, _ => .error .broken
  | _ :: _, _, _, _, [] => .error .cut
  | count :: counts, word, first, passed, b :: bits =>
    let word' := 2 * word + b.toNat
    let first' := 2 * first
    if word' < first' + count then
      match symbols[passed + (word' - first')]? with
      | some symbol => .ok (symbol, bits)
      | none => .error .broken
    else readFrom symbols counts word' (first' + count) (passed + count) bits

/-- The symbol of the word at the front. -/
def read (code : Code) : Unpacker Nat := readFrom code.symbols code.counts 0 0 0

end Code

end Autosampler.Deflate

import Autosampler.Deflate.Code

/-!
# Unpacking

Packed data is a head of two bytes and a row of blocks.  A block holds bytes as they are, or bytes
and copies of earlier bytes as words of prefix codes, which are fixed or stand in the block.

* `Codes`, `fixedCodes`, `readCodes` — the two codes of a block;
* `Piece`, `readPiece` — a byte, a copy, or the end of a block;
* `unpackPieces`, `unpackStored`, `unpackBlocks` — blocks, with the bytes that came before;
* `unpack?` — the bytes that packed data stands for.
-/

namespace Autosampler.Deflate

/-! ### Codes of a block -/

/-- The codes of a block: one for bytes, ends and lengths of copies, one for their distances. -/
structure Codes where
  symbols : Code
  distances : Code

/-- The codes that need not be written. -/
def fixedCodes : Codes :=
  ⟨.ofLengths (List.replicate 144 8 ++ List.replicate 112 9 ++ List.replicate 24 7
    ++ List.replicate 8 8),
   .ofLengths (List.replicate 32 5)⟩

/-- The order in which the lengths of the code of lengths are written. -/
def lengthOrder : List Nat := [16, 17, 18, 0, 8, 7, 9, 6, 10, 5, 11, 4, 12, 3, 13, 2, 14, 1, 15]

/-- The code of lengths, given the lengths that are written of it. -/
def codeOfLengths (written : List Nat) : Code :=
  .ofLengths ((List.range 19).map fun symbol =>
    (((lengthOrder.zip written).find? fun p => p.1 == symbol).map Prod.snd).getD 0)

/-- A length and how often it stands in a row, behind other lengths. -/
def readRun (code : Code) (before : Array Nat) : Unpacker (Nat × Nat) := do
  let symbol ← code.read
  if symbol < 16 then pure (symbol, 1)
  else if symbol = 16 then
    match before.back? with
    | none => throw .broken
    | some last => do
      let more ← readNumber 2
      pure (last, 3 + more)
  else if symbol = 17 then do
    let more ← readNumber 3
    pure (0, 3 + more)
  else do
    let more ← readNumber 7
    pure (0, 11 + more)

/-- Lengths up to a total number of them, in at most `bound` runs. -/
def readLengths (code : Code) (total : Nat) : Nat → Array Nat → Unpacker (Array Nat)
  | 0, lengths => pure lengths
  | bound + 1, lengths =>
    if total ≤ lengths.size then pure lengths
    else do
      let (length, count) ← readRun code lengths
      if total < lengths.size + count then throw .broken
      else readLengths code total bound (lengths ++ Array.replicate count length)

/-- The codes can be used: a block can end, and no word is missing.  There may be no distance at
all, or a single one. -/
def Codes.valid (codes : Codes) : Bool :=
  codes.symbols.symbols.contains 256 && codes.symbols.isFull
    && (codes.distances.counts == [] || codes.distances.counts == [1] || codes.distances.isFull)

/-- The codes that stand at the front of a block. -/
def readCodes : Unpacker Codes := do
  let symbolCount := 257 + (← readNumber 5)
  let distanceCount := 1 + (← readNumber 5)
  let writtenCount := 4 + (← readNumber 4)
  if 286 < symbolCount ∨ 30 < distanceCount then throw .broken
  let written ← (List.replicate writtenCount 3).mapM readNumber
  let code := codeOfLengths written
  if !code.isFull then throw .broken
  let total := symbolCount + distanceCount
  let lengths ← readLengths code total total #[]
  let codes : Codes :=
    ⟨.ofLengths (lengths.toList.take symbolCount), .ofLengths (lengths.toList.drop symbolCount)⟩
  if codes.valid then pure codes else throw .broken

/-! ### Pieces of a block -/

/-- A piece of a block. -/
inductive Piece where
  | byte (b : UInt8)
  /-- As many bytes as `length` says, from `distance` bytes before. -/
  | copy (length distance : Nat)
  | finish

/-- The least length of a symbol, and the width of the number that is added. -/
def lengthRanges : Array (Nat × Nat) :=
  #[(3, 0), (4, 0), (5, 0), (6, 0), (7, 0), (8, 0), (9, 0), (10, 0), (11, 1), (13, 1), (15, 1),
    (17, 1), (19, 2), (23, 2), (27, 2), (31, 2), (35, 3), (43, 3), (51, 3), (59, 3), (67, 4),
    (83, 4), (99, 4), (115, 4), (131, 5), (163, 5), (195, 5), (227, 5), (258, 0)]

/-- The least distance of a symbol, and the width of the number that is added. -/
def distanceRanges : Array (Nat × Nat) :=
  #[(1, 0), (2, 0), (3, 0), (4, 0), (5, 1), (7, 1), (9, 2), (13, 2), (17, 3), (25, 3), (33, 4),
    (49, 4), (65, 5), (97, 5), (129, 6), (193, 6), (257, 7), (385, 7), (513, 8), (769, 8),
    (1025, 9), (1537, 9), (2049, 10), (3073, 10), (4097, 11), (6145, 11), (8193, 12), (12289, 12),
    (16385, 13), (24577, 13)]

/-- A number in the range of a symbol. -/
def readWithin (ranges : Array (Nat × Nat)) (symbol : Nat) : Unpacker Nat :=
  match ranges[symbol]? with
  | none => throw .broken
  | some (least, width) => do
    let more ← readNumber width
    pure (least + more)

/-- The piece at the front. -/
def readPiece (codes : Codes) : Unpacker Piece := do
  let symbol ← codes.symbols.read
  if symbol < 256 then pure (.byte (UInt8.ofNat symbol))
  else if symbol = 256 then pure .finish
  else do
    let length ← readWithin lengthRanges (symbol - 257)
    let distance ← codes.distances.read >>= readWithin distanceRanges
    pure (.copy length distance)

/-! ### Blocks -/

/-- What is unpacked, and the bits behind a block unless it ended too early. -/
abbrev Progress := Array UInt8 × Except Stop Bits

/-- Append copies of the bytes that start `distance` bytes before the end. -/
def appendCopy (distance : Nat) : Nat → Array UInt8 → Array UInt8
  | 0, output => output
  | length + 1, output =>
    appendCopy distance length (output.push (output.getD (output.size - distance) 0))

/-- The pieces of a block, at most `bound` of them. -/
def unpackPieces (codes : Codes) : Nat → Array UInt8 → Bits → Progress
  | 0, output, _ => (output, .error .cut)
  | bound + 1, output, bits =>
    match readPiece codes bits with
    | .error stop => (output, .error stop)
    | .ok (.finish, rest) => (output, .ok rest)
    | .ok (.byte b, rest) => unpackPieces codes bound (output.push b) rest
    | .ok (.copy length distance, rest) =>
      if output.size < distance then (output, .error .broken)
      else unpackPieces codes bound (appendCopy distance length output) rest

/-- Bytes as they are. -/
def unpackBytes : Nat → Array UInt8 → Bits → Progress
  | 0, output, bits => (output, .ok bits)
  | count + 1, output, bits =>
    match readNumber 8 bits with
    | .error stop => (output, .error stop)
    | .ok (b, rest) => unpackBytes count (output.push (UInt8.ofNat b)) rest

/-- A block of bytes as they are.  It starts at a whole byte, with the number of bytes and the
opposite of that number. -/
def unpackStored (output : Array UInt8) (bits : Bits) : Progress :=
  match readNumber 16 (bits.drop (bits.length % 8)) with
  | .error stop => (output, .error stop)
  | .ok (count, rest) =>
    match readNumber 16 rest with
    | .error stop => (output, .error stop)
    | .ok (opposite, rest') =>
      if count + opposite = 0xFFFF then unpackBytes count output rest'
      else (output, .error .broken)

/-- A block of a kind. -/
def unpackBlock (kind : Nat) (output : Array UInt8) (bits : Bits) : Progress :=
  if kind = 0 then unpackStored output bits
  else if kind = 1 then unpackPieces fixedCodes (bits.length + 1) output bits
  else if kind = 2 then
    match readCodes bits with
    | .error stop => (output, .error stop)
    | .ok (codes, rest) => unpackPieces codes (rest.length + 1) output rest
  else (output, .error .broken)

/-- Blocks up to the one that is marked as the last, at most `bound` of them. -/
def unpackBlocks : Nat → Array UInt8 → Bits → Array UInt8 × Option Stop
  | 0, output, _ => (output, some .cut)
  | bound + 1, output, bits =>
    match readNumber 3 bits with
    | .error stop => (output, some stop)
    | .ok (head, rest) =>
      match unpackBlock (head / 2) output rest with
      | (output', .error stop) => (output', some stop)
      | (output', .ok rest') =>
        if head % 2 = 1 then (output', none) else unpackBlocks bound output' rest'

/-! ### Whole streams -/

/-- The two bytes in front: the method, a window that is not too large, no dictionary, and a sum
that comes out even. -/
def headValid (method flags : UInt8) : Bool :=
  method % 16 = 8 && method / 16 ≤ 7 && flags &&& 0x20 = 0
    && (method.toNat * 256 + flags.toNat) % 31 = 0

/-- The bytes that packed data stands for.  Of data that ends too early it is what came before; the
check sum at the end is not looked at. -/
def unpack? : List UInt8 → Option (Array UInt8)
  | method :: flags :: body =>
    if headValid method flags then
      match unpackBlocks (8 * body.length + 1) #[] (bitsOf body) with
      | (_, some .broken) => none
      | (output, _) => some output
    else none
  | _ => some #[]

end Autosampler.Deflate

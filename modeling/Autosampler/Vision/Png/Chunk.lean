/-!
# Chunks of PNG files

A PNG file is a row of chunks, each with its length, its type, its data and a check sum.

* `number`, `checksum` — numbers in a file, and the cyclic check sum of thirty-two bits;
* `Chunk`, `chunk?` — a chunk at the front of some bytes;
* `Chunk.isCritical` — the chunk cannot be passed over.
-/

namespace Autosampler.Png

/-! ### Numbers and check sums -/

/-- A number from its bytes, most significant first. -/
def number (bytes : List UInt8) : Nat := bytes.foldl (fun n b => n * 256 + b.toNat) 0

/-- One bit of the check sum. -/
def shift (sum : UInt32) : UInt32 :=
  if sum &&& 1 = 1 then (sum >>> 1) ^^^ 0xEDB88320 else sum >>> 1

/-- One byte of the check sum. -/
def feed (sum : UInt32) (b : UInt8) : UInt32 :=
  Nat.repeat shift 8 (sum ^^^ b.toUInt32)

/-- The check sum of bytes. -/
def checksum (bytes : List UInt8) : UInt32 := bytes.foldl feed 0xFFFFFFFF ^^^ 0xFFFFFFFF

/-! ### Chunks -/

/-- A chunk. -/
structure Chunk where
  kind : List UInt8
  body : List UInt8
  /-- The check sum is right. -/
  intact : Bool

/-- The type of the chunk at the front of some bytes. -/
def kindAt (bytes : List UInt8) : List UInt8 := (bytes.drop 4).take 4

/-- The chunk at the front of some bytes, and the bytes behind it. -/
def chunk? (bytes : List UInt8) : Option (Chunk × List UInt8) :=
  let length := number (bytes.take 4)
  let kind := kindAt bytes
  let body := (bytes.drop 8).take length
  let sum := (bytes.drop (8 + length)).take 4
  if sum.length = 4 then
    some (⟨kind, body, number sum = (checksum (kind ++ body)).toNat⟩, bytes.drop (12 + length))
  else none

/-- The picture cannot be shown without the chunk: its type starts with a capital letter. -/
def Chunk.isCritical (chunk : Chunk) : Bool := (chunk.kind.headD 0) &&& 0x20 = 0

end Autosampler.Png

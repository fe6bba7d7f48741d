import Autosampler.Deflate.Stream
import Autosampler.Vision.Png.Header

/-!
# PNG files

A PNG file is a signature and a row of chunks.  The first chunk tells the size and the kind of the
picture.  Behind it a palette and chunks that can be passed over may stand, then the chunks with
the packed rows of the picture follow each other, and at least the head of another chunk stands
behind them.

* `seekData?` — the file from its data chunks on;
* `packedData?` — what the data chunks hold;
* `size?` — the size of a picture whose file is well formed.
-/

namespace Autosampler.Png

/-! ### Types of chunks -/

/-- The bytes in front of every file. -/
def signature : List UInt8 := [0x89, 0x50, 0x4E, 0x47, 0x0D, 0x0A, 0x1A, 0x0A]

/-- The type of the first chunk. -/
def headerType : List UInt8 := "IHDR".toUTF8.toList

/-- The type of the chunk with the palette. -/
def paletteType : List UInt8 := "PLTE".toUTF8.toList

/-- The type of the chunks with the picture. -/
def dataType : List UInt8 := "IDAT".toUTF8.toList

/-- A palette has three bytes for each of its colours, and at most as many colours as a byte can
number. -/
def isPalette (body : List UInt8) : Bool :=
  body.length % 3 = 0 && 0 < body.length && body.length ≤ 768

/-! ### Parts of a file -/

/-- The file from its first data chunk on, with whether a palette stands before it.  Critical
chunks have to be intact, and the only one here is a single palette. -/
def seekData? : Nat → Bool → List UInt8 → Option (Bool × List UInt8)
  | 0, _, _ => none
  | bound + 1, palette, bytes =>
    if kindAt bytes = dataType then some (palette, bytes)
    else
      match chunk? bytes with
      | none => none
      | some (chunk, rest) =>
        if !chunk.isCritical then seekData? bound palette rest
        else if chunk.intact && chunk.kind = paletteType && !palette && isPalette chunk.body then
          seekData? bound true rest
        else none

/-- What the data chunks at the front hold.  The head of another chunk has to follow them. -/
def packedData? : Nat → List UInt8 → Option (List UInt8)
  | 0, _ => none
  | bound + 1, bytes =>
    if 8 ≤ bytes.length ∧ kindAt bytes ≠ dataType then some []
    else
      match chunk? bytes with
      | none => none
      | some (chunk, rest) =>
        if chunk.intact then (packedData? bound rest).map (chunk.body ++ ·) else none

/-! ### Whole files -/

/-- The header of a file, and the file behind it. -/
def fileHeader? (bytes : List UInt8) : Option (Header × List UInt8) := do
  let (first, rest) ← chunk? (bytes.drop signature.length)
  let h ← header? first.body
  if signature.isPrefixOf bytes && first.intact && first.kind = headerType && h.valid then
    some (h, rest)
  else none

/-- The size of a picture, if its file is well formed. -/
def size? (bytes : List UInt8) : Option (Nat × Nat) := do
  let (h, rest) ← fileHeader? bytes
  let (palette, data) ← seekData? (bytes.length + 1) false rest
  let packed ← packedData? (bytes.length + 1) data
  let rows ← Deflate.unpack? packed
  if (palette || !h.usesPalette) && h.accepts rows then some (h.width, h.height) else none

end Autosampler.Png

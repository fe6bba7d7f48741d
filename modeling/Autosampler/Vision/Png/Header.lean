import Autosampler.Vision.Png.Chunk

/-!
# Heads of PNG files

The first chunk of a file tells the size of the picture, what its values mean, and in which order
its rows stand in the file.

* `Header`, `Header.valid`, `header?` — what the first chunk says;
* `Header.passes`, `Header.rowLength` — the rows of a picture;
* `Header.accepts` — unpacked data holds all the rows.
-/

namespace Autosampler.Png

/-! ### The first chunk -/

/-- What the first chunk says. -/
structure Header where
  width : Nat
  height : Nat
  depth : UInt8
  colour : UInt8
  compression : UInt8
  filter : UInt8
  interlace : UInt8

/-- The depths that a kind of colours can have. -/
def depths (colour : UInt8) : List UInt8 :=
  if colour = 0 then [1, 2, 4, 8, 16]
  else if colour = 3 then [1, 2, 4, 8]
  else if colour = 2 ∨ colour = 4 ∨ colour = 6 then [8, 16]
  else []

/-- The header in the body of the first chunk. -/
def header? (body : List UInt8) : Option Header :=
  match body.drop 8 with
  | [depth, colour, compression, filter, interlace] =>
    some ⟨number (body.take 4), number ((body.drop 4).take 4), depth, colour, compression, filter,
      interlace⟩
  | _ => none

namespace Header

/-- The header is one that pictures can have. -/
def valid (h : Header) : Bool :=
  0 < h.width && 0 < h.height && (depths h.colour).contains h.depth && h.compression = 0
    && h.filter = 0 && h.interlace ≤ 1

/-- The values of the picture are numbers of colours in a palette. -/
def usesPalette (h : Header) : Bool := h.colour = 3

/-! ### Rows -/

/-- The number of values per dot. -/
def channels (h : Header) : Nat :=
  if h.colour = 2 then 3 else if h.colour = 4 then 2 else if h.colour = 6 then 4 else 1

/-- Where the rows of an interlaced picture start, from the left and from the top, and the
distances of their dots and of the rows. -/
def grids : List ((Nat × Nat) × Nat × Nat) :=
  [((0, 0), 8, 8), ((4, 0), 8, 8), ((0, 4), 4, 8), ((2, 0), 4, 4), ((0, 2), 2, 4),
   ((1, 0), 2, 2), ((0, 1), 1, 2)]

/-- How many steps of a certain size fit between `start` and `size`. -/
def steps (size start step : Nat) : Nat := (size - start + step - 1) / step

/-- The parts of a picture that stand behind each other in the file, with their widths and heights.
An interlaced picture is taken apart into seven; parts without a dot are left out. -/
def passes (h : Header) : List (Nat × Nat) :=
  if h.interlace = 0 then [(h.width, h.height)]
  else
    (grids.map fun g => (steps h.width g.1.1 g.2.1, steps h.height g.1.2 g.2.2)).filter fun p =>
      0 < p.1 && 0 < p.2

/-- The number of bytes of a row: one that tells how it is filtered, and the values. -/
def rowLength (h : Header) (width : Nat) : Nat :=
  1 + (width * h.channels * h.depth.toNat + 7) / 8

/-- The number of bytes of all rows. -/
def rawSize (h : Header) : Nat :=
  h.passes.foldl (fun bytes p => bytes + p.2 * h.rowLength p.1) 0

/-- The number of bytes of every row. -/
def rowLengths (h : Header) : List Nat :=
  h.passes.flatMap fun p => List.replicate p.2 (h.rowLength p.1)

/-- Every row starts with one of the five filters. -/
def filtersKnown (data : Array UInt8) : List Nat → Nat → Bool
  | [], _ => true
  | length :: lengths, start =>
    data.getD start 0 ≤ 4 && filtersKnown data lengths (start + length)

/-- The data holds all rows of the picture. -/
def accepts (h : Header) (data : Array UInt8) : Bool :=
  h.rawSize ≤ data.size && filtersKnown data h.rowLengths 0

end Header

end Autosampler.Png

/-!
# Lines of bytes

A connection delivers bytes.  A line ends with a newline byte; what stands behind the last newline
is a line, too, when the connection ends.

* `lines` — the lines of a stream, each with its newline;
* `decode` — the text of bytes, if they are UTF-8.
-/

namespace Autosampler.Text

/-- The newline byte. -/
def newline : UInt8 := 10

/-- The lines of a stream. -/
def lines : List UInt8 → List (List UInt8)
  | [] => []
  | b :: bs =>
    if b = newline then [b] :: lines bs
    else
      match lines bs with
      | [] => [[b]]
      | line :: rest => (b :: line) :: rest

/-- The text of bytes, if they are UTF-8. -/
def decode (bytes : List UInt8) : Option String := String.fromUTF8? ⟨bytes.toArray⟩

/-- The bytes of a text. -/
def encode (s : String) : List UInt8 := s.toUTF8.toList

end Autosampler.Text

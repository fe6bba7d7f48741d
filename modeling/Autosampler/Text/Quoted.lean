import Autosampler.Text.Hidden
import Autosampler.Text.Numeral

/-!
# Quoted texts

A text inside a report is put in double quotes, with a backslash before quotes and backslashes,
short escapes for the common control characters, and `\u` with the code in braces for every other
character that has no glyph of its own.

* `quotedChar` — one character;
* `quoted` — a whole text with its quotes.
-/

namespace Autosampler.Text

/-- The characters that show `c` inside double quotes. -/
def quotedChar (c : Char) : List Char :=
  if c = '\x00' then ['\\', '0']
  else if c = '\t' then ['\\', 't']
  else if c = '\r' then ['\\', 'r']
  else if c = '\n' then ['\\', 'n']
  else if c = '"' || c = '\\' then ['\\', c]
  else if isHidden c then ['\\', 'u', '\x7b'] ++ hexDigits c.toNat ++ ['\x7d']
  else [c]

/-- A text in double quotes, every character shown. -/
def quoted (s : String) : String :=
  String.ofList ('"' :: s.toList.flatMap quotedChar ++ ['"'])

end Autosampler.Text

import Autosampler.Toml.Value
import Autosampler.Text.Numeral

/-!
# Writing settings files

* `Scalar`, `Scalar.print` — the values that are written, on one line;
* `Section`, `Section.print` — a header and the lines below it;
* `printSections` — a file, with a blank line between its sections.
-/

namespace Autosampler.Toml

/-- A value that is written on one line. -/
inductive Scalar where
  | text (s : String)
  | natural (n : Nat)
  | flag (b : Bool)
  | texts (items : List String)

/-- A character inside quotation marks. -/
def escaped (c : Char) : List Char :=
  if c = '"' then ['\\', '"']
  else if c = '\\' then ['\\', '\\']
  else if c = '\n' then ['\\', 'n']
  else if c = '\r' then ['\\', 'r']
  else if c = '\t' then ['\\', 't']
  else if c.toNat < 0x20 ∨ c.toNat = 0x7F then
    ['\\', 'u', '0', '0', Text.digitCharOf (c.toNat / 16), Text.digitCharOf (c.toNat % 16)]
  else [c]

/-- A text in quotation marks. -/
def printText (s : String) : String :=
  String.ofList ('"' :: (s.toList.flatMap escaped ++ ['"']))

/-- A value on one line. -/
def Scalar.print : Scalar → String
  | text s => printText s
  | natural n => Text.decimal n
  | flag true => "true"
  | flag false => "false"
  | texts items => "[" ++ ", ".intercalate (items.map printText) ++ "]"

/-- A table with a header of its own. -/
structure Section where
  path : List String
  entries : List (String × Scalar)

/-- A header and the lines below it. -/
def Section.print (s : Section) : String :=
  "[" ++ ".".intercalate s.path ++ "]\n"
    ++ String.join (s.entries.map fun e => e.1 ++ " = " ++ e.2.print ++ "\n")

/-- Sections with a blank line in between. -/
def printSections (sections : List Section) : String :=
  "\n".intercalate (sections.map Section.print)

end Autosampler.Toml

import Autosampler.Decimal.Shortest
import Autosampler.Json.Value

/-!
# Writing JSON

Values are written on one line without blanks.  Quotes, backslashes and control characters are
escaped, all other characters stand for themselves.

* `escaped` — one character inside quotes;
* `printText`, `Number.print`, `Value.print` — texts, numbers and values;
* `Value.toText` — the text of a value.
-/

namespace Autosampler.Json

/-- A control character without a short escape. -/
def escapedControl (n : Nat) : List Char :=
  ['\\', 'u', '0', '0', Text.digitCharOf (n / 16), Text.digitCharOf (n % 16)]

/-- A character inside quotes. -/
def escaped (c : Char) : List Char :=
  if c = '"' then ['\\', '"']
  else if c = '\\' then ['\\', '\\']
  else if c = '\n' then ['\\', 'n']
  else if c = '\r' then ['\\', 'r']
  else if c = '\t' then ['\\', 't']
  else if c = '\x08' then ['\\', 'b']
  else if c = '\x0c' then ['\\', 'f']
  else if c.toNat < 0x20 then escapedControl c.toNat
  else [c]

/-- A text in quotes. -/
def printText (s : String) : List Char := '"' :: (s.toList.flatMap escaped ++ ['"'])

/-- A number. -/
def Number.print : Number → List Char
  | natural n => Text.decimalDigits n
  | negative n => '-' :: Text.decimalDigits n
  | real f => (Decimal.realText f).toList

/-- Parts with commas in between. -/
def commaSeparated : List (List Char) → List Char
  | [] => []
  | [part] => part
  | part :: parts => part ++ ',' :: commaSeparated parts

mutual

/-- A value on one line. -/
def Value.print : Value → List Char
  | .null => "null".toList
  | .bool true => "true".toList
  | .bool false => "false".toList
  | .number n => n.print
  | .text s => printText s
  | .list items => '[' :: (commaSeparated (Value.printItems items) ++ [']'])
  | .object members => '\x7b' :: (commaSeparated (Value.printMembers members) ++ ['\x7d'])

/-- The items of a list. -/
def Value.printItems : List Value → List (List Char)
  | [] => []
  | v :: vs => v.print :: Value.printItems vs

/-- The members of an object. -/
def Value.printMembers : List (String × Value) → List (List Char)
  | [] => []
  | (name, v) :: rest => (printText name ++ ':' :: v.print) :: Value.printMembers rest

end

/-- The text of a value. -/
def Value.toText (v : Value) : String := String.ofList v.print

end Autosampler.Json

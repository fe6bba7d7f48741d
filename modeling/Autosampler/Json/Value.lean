import Autosampler.Json.Lexeme

/-!
# JSON values

* `Value` — a value of the format; members of objects stay in order and may repeat;
* `Reader` — a way to read something, given how many levels may still be opened;
* `readItems`, `readPairs` — what stands between brackets and between braces;
* `Value.read` — any value.

The depth argument counts the levels that may still be opened, plus one: a value that would open
one more breaks the format.  `Value.read` is structural in it, and the loops over items carry the
length of the text as a bound on the number of items.
-/

namespace Autosampler.Json

/-! ### Values -/

/-- A value of the format. -/
inductive Value where
  | null
  | bool (b : Bool)
  | number (n : Number)
  | text (s : String)
  | list (items : List Value)
  | object (members : List (String × Value))

namespace Value

/-- A whole number. -/
def natural (n : Nat) : Value := .number (.natural n)

/-- A value that may be absent. -/
def optional {α : Type} (write : α → Value) : Option α → Value
  | none => .null
  | some a => write a

/-- The members of an object whose value is present. -/
def present (members : List (String × Option Value)) : Value :=
  .object (members.filterMap fun m => m.2.map fun v => (m.1, v))

end Value

/-- A way to read something at the front of a text. -/
abbrev Reader (α : Type) := Nat → List Char → Step α

/-- The number of levels that a text may open, plus one. -/
def fullDepth : Nat := 128

/-! ### Sequences -/

/-- Read the colon between the name and the value of a member. -/
def readColon (cs : List Char) : Except Fault (List Char) :=
  match skipBlank cs with
  | [] => .error .cut
  | ':' :: rest => .ok rest
  | _ :: _ => .error .malformed

/-- Go to the next item of a list.  The answer is the text of the item, or `none` and the rest
after the closing bracket. -/
def nextItem (first : Bool) (cs : List Char) : Except Fault (Bool × List Char) :=
  match skipBlank cs with
  | [] => .error .cut
  | ']' :: rest => .ok (false, rest)
  | ',' :: rest =>
    if first then .ok (true, ',' :: rest)
    else
      match skipBlank rest with
      | [] => .error .cut
      | ']' :: _ => .error .malformed
      | item => .ok (true, item)
  | item => if first then .ok (true, item) else .error .malformed

/-- Go to the next member of an object.  The answer is the text after the opening quote of its
name, or `none` and the rest after the closing brace. -/
def nextMember (first : Bool) (cs : List Char) : Except Fault (Bool × List Char) :=
  match skipBlank cs with
  | [] => .error .cut
  | '\x7d' :: rest => .ok (false, rest)
  | '"' :: name => if first then .ok (true, name) else .error .malformed
  | ',' :: rest =>
    if first then .error .malformed
    else
      match skipBlank rest with
      | [] => .error .cut
      | '"' :: name => .ok (true, name)
      | _ :: _ => .error .malformed
  | _ :: _ => .error .malformed

/-- The items of a list, after its opening bracket or after an item. -/
def readItems {α : Type} (item : List Char → Step α) : Nat → Bool → List Char → Step (List α)
  | 0, _, _ => .error .cut
  | bound + 1, first, cs =>
    match nextItem first cs with
    | .error fault => .error fault
    | .ok (false, rest) => .ok ([], rest)
    | .ok (true, rest) =>
      match item rest with
      | .error fault => .error fault
      | .ok (a, after) =>
        match readItems item bound false after with
        | .error fault => .error fault
        | .ok (as, last) => .ok (a :: as, last)

/-- The members of an object, after its opening brace or after a member. -/
def readPairs {α : Type} (item : List Char → Step α) :
    Nat → Bool → List Char → Step (List (String × α))
  | 0, _, _ => .error .cut
  | bound + 1, first, cs =>
    match nextMember first cs with
    | .error fault => .error fault
    | .ok (false, rest) => .ok ([], rest)
    | .ok (true, rest) =>
      match readText rest with
      | .error fault => .error fault
      | .ok (name, afterName) =>
        match readColon afterName with
        | .error fault => .error fault
        | .ok afterColon =>
          match item afterColon with
          | .error fault => .error fault
          | .ok (a, after) =>
            match readPairs item bound false after with
            | .error fault => .error fault
            | .ok (as, last) => .ok ((String.ofList name, a) :: as, last)

/-! ### Any value -/

/-- What a keyword stands for, after its first letter. -/
def readKeyword (rest : String) (v : Value) (cs : List Char) : Step Value :=
  (readWord rest.toList cs).map fun after => (v, after)

/-- Any value.  The depth is one more than the number of levels that may be opened. -/
def Value.read : Reader Value
  | 0, _ => .error .malformed
  | depth + 1, cs =>
    match skipBlank cs with
    | [] => .error .cut
    | 'n' :: rest => readKeyword "ull" .null rest
    | 't' :: rest => readKeyword "rue" (.bool true) rest
    | 'f' :: rest => readKeyword "alse" (.bool false) rest
    | '"' :: rest => (readText rest).map fun r => (.text (String.ofList r.1), r.2)
    | '-' :: rest => (readNumber true rest).map fun r => (.number r.1, r.2)
    | '[' :: rest =>
      if depth = 0 then .error .malformed
      else
        (readItems (Value.read depth) (rest.length + 1) true rest).map fun r => (.list r.1, r.2)
    | '\x7b' :: rest =>
      if depth = 0 then .error .malformed
      else
        (readPairs (Value.read depth) (rest.length + 1) true rest).map fun r =>
          (.object r.1, r.2)
    | c :: rest =>
      if Text.isDigit c then (readNumber false (c :: rest)).map fun r => (.number r.1, r.2)
      else .error .malformed

/-- Nothing but blanks may follow a value. -/
def readEnd (cs : List Char) : Except Fault Unit :=
  match skipBlank cs with
  | [] => .ok ()
  | _ :: _ => .error .malformed

/-- Read a whole text. -/
def readAll {α : Type} (reader : Reader α) (s : String) : Except Fault α :=
  match reader fullDepth s.toList with
  | .error fault => .error fault
  | .ok (a, rest) => (readEnd rest).map fun _ => a

/-- The value of a whole text. -/
def Value.ofText (s : String) : Except Fault Value := readAll Value.read s

end Autosampler.Json

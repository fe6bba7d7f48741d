import Autosampler.Decimal.Shortest
import Autosampler.Json.Skip
import Autosampler.Text.Quoted

/-!
# Reading typed values

A value of a known type is read straight from the text, member by member.  What does not fit
the type fails where it stands, before anything behind it is looked at.

* `misfit` — the fault of a value of another kind;
* `readString`, `readBool`, `readUnsigned`, `readOptional`, `readList` — simple types;
* `Member`, `Member.kept`, `Record`, `Record.read` — structures, written as objects or as lists
  of their members in order;
* `Variant`, `readVariant` — one of several names, with or without a value.
-/

namespace Autosampler.Json

/-! ### Values of another kind -/

/-- What a number is called in a complaint. -/
def Number.describe : Number → String
  | natural n => "integer `" ++ Text.decimal n ++ "`"
  | negative n => "integer `-" ++ Text.decimal n ++ "`"
  | real f => "floating point `" ++ Decimal.realText f ++ "`"

/-- What a value is called in a complaint. -/
def Value.describe : Value → String
  | .null => "null"
  | .bool true => "boolean `true`"
  | .bool false => "boolean `false`"
  | .number n => n.describe
  | .text s => "string " ++ Text.quoted s
  | .list _ => "sequence"
  | .object _ => "map"

/-- The complaint about a value of the wrong kind. -/
def wrongKind (found expected : String) : Fault :=
  .unfit ("invalid type: " ++ found ++ ", expected " ++ expected)

/-- The fault of what stands at the front of `cs`, where something else was expected.  A text or
number that cannot be read fails on its own account. -/
def misfit (expected : String) (cs : List Char) : Fault :=
  let kind {α : Type} (r : Except Fault α) (found : α → String) : Fault :=
    match r with
    | .error fault => fault
    | .ok a => wrongKind (found a) expected
  match skipBlank cs with
  | [] => .cut
  | 'n' :: rest => kind (readWord "ull".toList rest) fun _ => "null"
  | 't' :: rest => kind (readWord "rue".toList rest) fun _ => "boolean `true`"
  | 'f' :: rest => kind (readWord "alse".toList rest) fun _ => "boolean `false`"
  | '-' :: rest => kind (readNumber true rest) fun r => r.1.describe
  | '"' :: rest => kind (readText rest) fun r => "string " ++ Text.quoted (String.ofList r.1)
  | '[' :: _ => wrongKind "sequence" expected
  | '\x7b' :: _ => wrongKind "map" expected
  | c :: rest =>
    if Text.isDigit c then kind (readNumber false (c :: rest)) fun r => r.1.describe
    else .malformed

/-! ### Simple types -/

/-- A text, called `expected` in complaints. -/
def readTextOf (expected : String) (cs : List Char) : Step String :=
  match skipBlank cs with
  | '"' :: rest => (readText rest).map fun r => (String.ofList r.1, r.2)
  | other => .error (misfit expected other)

/-- A text. -/
def readString : Reader String := fun _ cs => readTextOf "a string" cs

/-- A truth value. -/
def readBool : Reader Bool := fun _ cs =>
  match skipBlank cs with
  | 't' :: rest => (readWord "rue".toList rest).map fun after => (true, after)
  | 'f' :: rest => (readWord "alse".toList rest).map fun after => (false, after)
  | other => .error (misfit "a boolean" other)

/-- A whole number below `bound`, called `expected` in complaints. -/
def readUnsigned (bound : Nat) (expected : String) : Reader Nat := fun _ cs =>
  let judge (r : Step Number) : Step Nat :=
    match r with
    | .error fault => .error fault
    | .ok (.natural n, rest) =>
      if n < bound then .ok (n, rest)
      else
        .error (.unfit ("invalid value: " ++ (Number.natural n).describe ++ ", expected "
          ++ expected))
    | .ok (.negative n, _) =>
      .error (.unfit ("invalid value: " ++ (Number.negative n).describe ++ ", expected "
        ++ expected))
    | .ok (.real f, _) => .error (wrongKind (Number.real f).describe expected)
  match skipBlank cs with
  | '-' :: rest => judge (readNumber true rest)
  | [] => .error .cut
  | c :: rest =>
    if Text.isDigit c then judge (readNumber false (c :: rest))
    else .error (misfit expected (c :: rest))

/-- A value that may be `null`. -/
def readOptional {α : Type} (reader : Reader α) : Reader (Option α) := fun depth cs =>
  match skipBlank cs with
  | [] => .error .cut
  | 'n' :: rest => (readWord "ull".toList rest).map fun after => (none, after)
  | other => (reader depth other).map fun r => (some r.1, r.2)

/-- A list of values of one type. -/
def readList {α : Type} (reader : Reader α) : Reader (List α) := fun depth cs =>
  match skipBlank cs with
  | '[' :: rest =>
    if depth ≤ 1 then .error .malformed
    else readItems (reader (depth - 1)) (rest.length + 1) true rest
  | other => .error (misfit "a sequence" other)

/-! ### Records -/

/-- A member of a record that is read into a draft `δ`. -/
structure Member (δ : Type) where
  name : String
  /-- The draft has a value for the member. -/
  filled : δ → Bool
  /-- Read the value of the member into the draft. -/
  read : δ → Reader δ
  /-- A list of members may end before this one. -/
  mayBeLeftOut : Bool := false

/-- A record type: its members in order, and what becomes of a complete draft. -/
structure Record (δ α : Type) where
  name : String
  blank : δ
  members : List (Member δ)
  /-- The finished value, or the name of a member that is missing. -/
  finish : δ → Except String α

/-- A member whose value is kept in a draft until all members are known. -/
def Member.kept {δ α : Type} (name : String) (reader : Reader α) (get : δ → Option α)
    (set : δ → α → δ) : Member δ :=
  { name := name
    filled := fun draft => (get draft).isSome
    read := fun draft depth cs => (reader depth cs).map fun r => (set draft r.1, r.2) }

/-- The same member, which a list may end before. -/
def Member.dispensable {δ : Type} (m : Member δ) : Member δ := { m with mayBeLeftOut := true }

/-- The value of a member, or its name if the value is missing. -/
def required {α : Type} (name : String) : Option α → Except String α
  | some a => .ok a
  | none => .error name

namespace Record

variable {δ α : Type}

/-- The members of a record written as an object, after the opening brace or after a member. -/
def readObject (members : List (Member δ)) (depth : Nat) : Nat → Bool → δ → List Char → Step δ
  | 0, _, _, _ => .error .cut
  | bound + 1, first, draft, cs =>
    match nextMember first cs with
    | .error fault => .error fault
    | .ok (false, rest) => .ok (draft, rest)
    | .ok (true, rest) =>
      match readText rest with
      | .error fault => .error fault
      | .ok (name, afterName) =>
        match members.find? fun m => m.name.toList == name with
        | none =>
          match readColon afterName with
          | .error fault => .error fault
          | .ok afterColon =>
            match skipValue afterColon with
            | .error fault => .error fault
            | .ok after => readObject members depth bound false draft after
        | some m =>
          if m.filled draft then .error (.unfit ("duplicate field `" ++ m.name ++ "`"))
          else
            match readColon afterName with
            | .error fault => .error fault
            | .ok afterColon =>
              match m.read draft depth afterColon with
              | .error fault => .error fault
              | .ok (fuller, after) => readObject members depth bound false fuller after

/-- The members of a record written as a list, after the opening bracket or after a member. -/
def readSequence (depth : Nat) : List (Member δ) → Bool → δ → List Char → Step δ
  | [], first, draft, cs =>
    match nextItem first cs with
    | .ok (false, rest) => .ok (draft, rest)
    | .ok (true, _) => .error .malformed
    | .error fault =>
      match skipBlank cs with
      | ',' :: _ => .error .malformed
      | _ => .error fault
  | m :: ms, first, draft, cs =>
    match nextItem first cs with
    | .error fault => .error fault
    | .ok (true, rest) =>
      match m.read draft depth rest with
      | .error fault => .error fault
      | .ok (fuller, after) => readSequence depth ms false fuller after
    | .ok (false, rest) =>
      if (m :: ms).all fun m => m.mayBeLeftOut then .ok (draft, rest)
      else .error (.unfit "invalid length")

/-- A record. -/
def read (r : Record δ α) : Reader α := fun depth cs =>
  let conclude (s : Step δ) : Step α :=
    match s with
    | .error fault => .error fault
    | .ok (draft, rest) =>
      match r.finish draft with
      | .ok a => .ok (a, rest)
      | .error name => .error (.unfit ("missing field `" ++ name ++ "`"))
  match skipBlank cs with
  | '\x7b' :: rest =>
    if depth ≤ 1 then .error .malformed
    else conclude (readObject r.members (depth - 1) (rest.length + 1) true r.blank rest)
  | '[' :: rest =>
    if depth ≤ 1 then .error .malformed
    else conclude (readSequence (depth - 1) r.members true r.blank rest)
  | other => .error (misfit ("struct " ++ r.name) other)

end Record

/-! ### Variants -/

/-- One of the names that a value can have. -/
structure Variant (α : Type) where
  name : String
  /-- The value of the bare name, if the name may stand alone. -/
  bare : Option α
  /-- What follows the name in an object of one member. -/
  content : Reader α

/-- A variant that is only a name. -/
def Variant.plain {α : Type} (name : String) (a : α) : Variant α :=
  { name := name
    bare := some a
    content := fun _ cs =>
      match skipBlank cs with
      | 'n' :: rest => (readWord "ull".toList rest).map fun after => (a, after)
      | other => .error (misfit "unit" other) }

/-- The complaint about a name that no variant has. -/
def unknownVariant (names : List String) (name : String) : Fault :=
  .unfit ("unknown variant `" ++ name ++ "`, expected "
    ++ (match names with
        | [single] => "`" ++ single ++ "`"
        | [one, other] => "`" ++ one ++ "` or `" ++ other ++ "`"
        | _ => "one of " ++ ", ".intercalate (names.map fun n => "`" ++ n ++ "`")))

/-- The variant of a name. -/
def findVariant {α : Type} (variants : List (Variant α)) (name : String) :
    Except Fault (Variant α) :=
  match variants.find? fun v => v.name == name with
  | some v => .ok v
  | none => .error (unknownVariant (variants.map Variant.name) name)

/-- The name of the one member of an object; names are texts. -/
def readName (cs : List Char) : Step String :=
  match skipBlank cs with
  | [] => .error .cut
  | '"' :: rest => (readText rest).map fun r => (String.ofList r.1, r.2)
  | _ :: _ => .error .malformed

/-- One of several names: the bare name, or an object of one member. -/
def readVariant {α : Type} (variants : List (Variant α)) : Reader α := fun depth cs =>
  match skipBlank cs with
  | [] => .error .cut
  | '"' :: rest =>
    match readText rest with
    | .error fault => .error fault
    | .ok (name, after) =>
      match findVariant variants (String.ofList name) with
      | .error fault => .error fault
      | .ok v =>
        match v.bare with
        | some a => .ok (a, after)
        | none => .error (wrongKind "unit variant" "struct variant")
  | '\x7b' :: rest =>
    if depth ≤ 1 then .error .malformed
    else
      match readName rest with
      | .error fault => .error fault
      | .ok (name, afterName) =>
        match findVariant variants name with
        | .error fault => .error fault
        | .ok v =>
          match readColon afterName with
          | .error fault => .error fault
          | .ok afterColon =>
            match v.content (depth - 1) afterColon with
            | .error fault => .error fault
            | .ok (a, after) =>
              match skipBlank after with
              | [] => .error .cut
              | '\x7d' :: last => .ok (a, last)
              | _ :: _ => .error .malformed
  | _ :: _ => .error .malformed

end Autosampler.Json

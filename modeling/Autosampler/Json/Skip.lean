import Autosampler.Json.Value

/-!
# Passing over a value

A member that nobody asks for is passed over.  Only its form is checked: the meaning of escapes,
the size of numbers and the number of open levels do not matter there.

* `Frame` — an open bracket or brace;
* `skipScalar` — a value that opens no level;
* `skipValue` — any value.
-/

namespace Autosampler.Json

/-- An open level: a list or an object. -/
inductive Frame where
  | list
  | object
deriving DecidableEq

/-- The closing mark of a level. -/
def Frame.close : Frame → Char
  | list => ']'
  | object => '\x7d'

/-- What stands at the front of a value: the whole of a scalar, or the opening of a level. -/
def skipScalar (cs : List Char) : Except Fault (Option Frame × List Char) :=
  let done (r : Except Fault (List Char)) : Except Fault (Option Frame × List Char) :=
    r.map fun rest => (none, rest)
  match skipBlank cs with
  | [] => .error .cut
  | 'n' :: rest => done (readWord "ull".toList rest)
  | 't' :: rest => done (readWord "rue".toList rest)
  | 'f' :: rest => done (readWord "alse".toList rest)
  | '"' :: rest => done (passText rest)
  | '-' :: rest => done (passNumber rest)
  | '[' :: rest => .ok (some .list, rest)
  | '\x7b' :: rest => .ok (some .object, rest)
  | c :: rest => if Text.isDigit c then done (passNumber (c :: rest)) else .error .malformed

/-- Close levels as long as their closing marks follow.  `comma` says whether a value stands
before.  The answer is the levels still open and the text of the next value or name; no level
is open any more when the whole value was passed. -/
def closeLevels : List Frame → Bool → List Char → Except Fault (List Frame × List Char)
  | [], _, cs => .ok ([], cs)
  | frame :: outer, comma, cs =>
    match skipBlank cs with
    | [] => .error .cut
    | c :: rest =>
      if c = ',' ∧ comma then .ok (frame :: outer, rest)
      else if c = frame.close then closeLevels outer true rest
      else if comma then .error .malformed
      else .ok (frame :: outer, c :: rest)

/-- The name of the next member, if the innermost level is an object. -/
def skipName : List Frame → List Char → Except Fault (List Char)
  | .object :: _, cs =>
    match skipBlank cs with
    | [] => .error .cut
    | '"' :: rest =>
      match passText rest with
      | .error fault => .error fault
      | .ok after => readColon after
    | _ :: _ => .error .malformed
  | _, cs => .ok cs

/-- Pass over a value inside the given open levels, at most `bound` scalars and openings long. -/
def skipLevels : Nat → List Frame → List Char → Except Fault (List Char)
  | 0, _, _ => .error .cut
  | bound + 1, frames, cs =>
    match skipScalar cs with
    | .error fault => .error fault
    | .ok (opened, rest) =>
      match closeLevels (opened.toList ++ frames) opened.isNone rest with
      | .error fault => .error fault
      | .ok ([], after) => .ok after
      | .ok (levels, after) =>
        match skipName levels after with
        | .error fault => .error fault
        | .ok next => skipLevels bound levels next

/-- Pass over a value. -/
def skipValue (cs : List Char) : Except Fault (List Char) := skipLevels (cs.length + 1) [] cs

end Autosampler.Json

import Autosampler.Toml.Moment

/-!
# Values of settings files

* `Real` — a number with a fraction or an exponent, kept as its decimal;
* `Value` — a value; the entries of a table stay in order and have different names;
* `Value.lookup?` — an entry of a table.
-/

namespace Autosampler.Toml

/-- A number that need not be whole. -/
inductive Real where
  /-- The decimal `digits * 10 ^ exponent`, or its opposite. -/
  | decimal (negative : Bool) (digits : Nat) (exponent : Int)
  | infinity (negative : Bool)
  | undefined
deriving DecidableEq

/-- A value. -/
inductive Value where
  | text (s : String)
  | integer (n : Int)
  | real (r : Real)
  | bool (b : Bool)
  | moment (m : Moment)
  | list (items : List Value)
  | table (entries : List (String × Value))

/-- The value of a name among entries. -/
def lookup? (name : String) (entries : List (String × Value)) : Option Value :=
  (entries.find? fun e => e.1 == name).map Prod.snd

end Autosampler.Toml

/-!
# Numerals

Numbers on the wire are decimal: ASCII digits, an optional plus sign, and a bound that the
word they are stored in sets.

* `digitsValue?` — the value of a non-empty run of digits in a base;
* `readNat?` — an unsigned decimal numeral with an optional plus sign;
* `readWord?` — the same below a bound;
* `decimal` — the digits of a number, without leading zeros.
-/

namespace Autosampler.Text

/-- The value of a digit: `0` to `9`, then letters of either case. -/
def digitValue (c : Char) : Nat :=
  if '0' ≤ c ∧ c ≤ '9' then c.toNat - 48
  else if 'a' ≤ c ∧ c ≤ 'z' then c.toNat - 87
  else if 'A' ≤ c ∧ c ≤ 'Z' then c.toNat - 55
  else 36

/-- A decimal digit. -/
def isDigit (c : Char) : Bool := '0' ≤ c && c ≤ '9'

/-- A digit of `base`. -/
def isDigitOf (base : Nat) (c : Char) : Bool := digitValue c < base

/-- The value of `cs` read as digits of `base`, on top of the digits read before. -/
def digitsValue (base : Nat) (cs : List Char) : Nat :=
  cs.foldl (fun n c => n * base + digitValue c) 0

/-- The value of a non-empty run of digits of `base`. -/
def digitsValue? (base : Nat) (cs : List Char) : Option Nat :=
  if !cs.isEmpty && cs.all (isDigitOf base) then some (digitsValue base cs) else none

/-- An unsigned decimal numeral: an optional plus sign, then at least one digit. -/
def readNat? : List Char → Option Nat
  | '+' :: cs => digitsValue? 10 cs
  | cs => digitsValue? 10 cs

/-- An unsigned decimal numeral whose value is below `bound`. -/
def readWord? (bound : Nat) (cs : List Char) : Option Nat :=
  (readNat? cs).filter (· < bound)

/-- The number of values of a 64-bit word. -/
def word64 : Nat := Nat.pow 2 64

/-- The digit character of a value below ten. -/
def digitChar (n : Nat) : Char := Char.ofNat (48 + n)

/-- The decimal digits of `n`, most significant first. -/
def decimalDigits (n : Nat) : List Char :=
  if n < 10 then [digitChar n] else decimalDigits (n / 10) ++ [digitChar (n % 10)]

/-- The decimal numeral of `n`. -/
def decimal (n : Nat) : String := String.ofList (decimalDigits n)

/-- `n` in at least `width` decimal digits, filled up with zeros. -/
def decimalPadded (width n : Nat) : String :=
  let ds := decimalDigits n
  String.ofList (List.replicate (width - ds.length) '0' ++ ds)

/-- The digit character of a value below thirty-six, letters small. -/
def digitCharOf (n : Nat) : Char := if n < 10 then digitChar n else Char.ofNat (87 + n)

/-- The digits of `n` in hexadecimal, small letters, most significant first. -/
def hexDigits (n : Nat) : List Char :=
  if n < 16 then [digitCharOf n] else hexDigits (n / 16) ++ [digitCharOf (n % 16)]

end Autosampler.Text

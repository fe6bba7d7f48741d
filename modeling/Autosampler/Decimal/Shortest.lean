import Autosampler.Text.Numeral

/-!
# Shortest decimals of doubles

A double is shown by the decimal with the fewest digits that reads back as the same double; of
several such decimals the nearest is taken.

* `Numeral` — digits and a power of ten;
* `grid?` — the decimal of a given length that reads back, if there is one;
* `shortest` — the shortest of them;
* `realText` — the digits laid out, positional from `1e-5` up to `1e16` and with an exponent
  outside.
-/

namespace Autosampler.Decimal

/-! ### Decimals in an interval -/

/-- The decimal `digits * 10 ^ exponent`. -/
structure Numeral where
  digits : Nat
  exponent : Int
deriving DecidableEq

/-- A double as a fraction of whole numbers, with the numbers that bound its interval. -/
structure Interval where
  /-- The lower bound, times the denominator. -/
  low : Nat
  /-- The double itself, times the denominator. -/
  value : Nat
  /-- The upper bound, times the denominator. -/
  high : Nat
  denominator : Nat
  /-- The bounds read back as the double, too. -/
  closed : Bool

/-- `digits * 10 ^ exponent` lies in the interval. -/
def Interval.contains (i : Interval) (d : Numeral) : Bool :=
  let up := Nat.pow 10 d.exponent.toNat
  let down := Nat.pow 10 (-d.exponent).toNat
  let x := d.digits * up * i.denominator
  if i.closed then i.low * down ≤ x && x ≤ i.high * down
  else i.low * down < x && x < i.high * down

/-- The decimal with the given exponent that is nearest to the double, if it reads back. -/
def grid? (i : Interval) (exponent : Int) : Option Numeral :=
  let unit := Nat.pow 10 exponent.toNat * i.denominator
  let scaled := i.value * Nat.pow 10 (-exponent).toNat
  let below : Numeral := ⟨scaled / unit, exponent⟩
  let above : Numeral := ⟨scaled / unit + 1, exponent⟩
  let upward := unit < 2 * (scaled % unit)
  let first := if upward then above else below
  let second := if upward then below else above
  if i.contains first then some first else if i.contains second then some second else none

/-- The shortest decimal among those with the exponents `top`, `top - 1`, … -/
def shortestFrom (i : Interval) : Nat → Int → Numeral
  | 0, top => ⟨i.value * Nat.pow 10 (-top).toNat / (Nat.pow 10 top.toNat * i.denominator), top⟩
  | fuel + 1, top =>
    match grid? i top with
    | some d => d
    | none => shortestFrom i fuel (top - 1)

/-- The least number of places by which a fraction below one has to be moved to reach one. -/
def placesBelow : Nat → Nat → Nat → Nat
  | 0, _, _ => 0
  | fuel + 1, num, den => if den ≤ num then 0 else placesBelow fuel (num * 10) den + 1

/-- The exponent of the first digit of a positive fraction. -/
def leadExponent (num den : Nat) : Int :=
  if den ≤ num then ((Text.decimalDigits (num / den)).length : Int) - 1
  else -(placesBelow 400 num den : Int)

/-- The shortest decimal of the positive double `m * 2 ^ q`.  The interval is narrower below
where the doubles lie twice as dense. -/
def shortest (m : Nat) (q : Int) (denser : Bool) : Numeral :=
  let up := Nat.pow 2 (q - 2).toNat
  let i : Interval :=
    { low := (4 * m - if denser then 1 else 2) * up
      value := 4 * m * up
      high := (4 * m + 2) * up
      denominator := Nat.pow 2 (2 - q).toNat
      closed := m % 2 = 0 }
  shortestFrom i 20 (leadExponent i.value i.denominator)

/-! ### Layout -/

/-- Digits without the zeros at their end. -/
def dropZeros (ds : List Char) : List Char := (ds.reverse.dropWhile (· = '0')).reverse

/-- The exponent part: a sign and the digits. -/
def exponentText (e : Int) : String :=
  (if e < 0 then "e-" else "e+") ++ Text.decimal e.natAbs

/-- A positive decimal laid out. -/
def layout (d : Numeral) : String :=
  let raw := Text.decimalDigits d.digits
  let lead : Int := d.exponent + (raw.length : Int) - 1
  let ds := dropZeros raw
  if -5 ≤ lead && lead < 16 then
    if lead < 0 then
      "0." ++ String.ofList (List.replicate (-lead - 1).toNat '0' ++ ds)
    else
      let whole := lead.toNat + 1
      let front := ds.take whole ++ List.replicate (whole - ds.length) '0'
      let back := ds.drop whole
      String.ofList front ++ "." ++ (if back.isEmpty then "0" else String.ofList back)
  else
    match ds with
    | [] => "0.0"
    | [c] => String.ofList [c] ++ exponentText lead
    | c :: rest => String.ofList (c :: '.' :: rest) ++ exponentText lead

/-- The text of a finite double. -/
def realText (f : Float) : String :=
  let bits := f.toBits.toNat
  let sign := if bits / Nat.pow 2 63 = 1 then "-" else ""
  let field : Nat := bits / Nat.pow 2 52 % Nat.pow 2 11
  let fraction := bits % Nat.pow 2 52
  if field = 0 && fraction = 0 then sign ++ "0.0"
  else if field = 0 then sign ++ layout (shortest fraction (-1074) false)
  else
    sign ++ layout (shortest (Nat.pow 2 52 + fraction) ((field : Int) - 1075)
      (fraction = 0 && 1 < field))

end Autosampler.Decimal

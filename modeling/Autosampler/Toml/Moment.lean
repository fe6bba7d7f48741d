import Autosampler.Text.Numeral

/-!
# Dates and times of settings files

* `Date`, `Time`, `Offset`, `Moment` — a date, a time of day, a distance from Greenwich, and their
  combinations;
* `Bounds` — what times and offsets may be;
* `readMoment` — a moment at the front of a text;
* `Moment.ofText?` — a moment that is all of a text, with wider bounds;
* `Moment.toText` — its usual text.
-/

namespace Autosampler.Toml

/-! ### Moments -/

/-- A day of the calendar. -/
structure Date where
  year : Nat
  month : Nat
  day : Nat
deriving DecidableEq

/-- A time of day. -/
structure Time where
  hour : Nat
  minute : Nat
  second : Nat
  nanosecond : Nat
deriving DecidableEq

/-- A distance from Greenwich. -/
inductive Offset where
  | zulu
  /-- Minutes east. -/
  | minutes (n : Int)
deriving DecidableEq

/-- A date, a time, or both; both may come with an offset. -/
inductive Moment where
  | date (date : Date)
  | time (time : Time)
  | full (date : Date) (time : Time) (offset : Option Offset)
deriving DecidableEq

/-! ### Reading -/

/-- A number of exactly two digits, between bounds. -/
def readPair (low high : Nat) : List Char → Option (Nat × List Char)
  | a :: b :: rest =>
    if Text.isDigit a && Text.isDigit b then
      let n := Text.digitsValue 10 [a, b]
      if low ≤ n ∧ n ≤ high then some (n, rest) else none
    else none
  | _ => none

/-- The text after a certain character. -/
def after? (mark : Char) : List Char → Option (List Char)
  | [] => none
  | c :: cs => if c = mark then some cs else none

/-- A year has one more day. -/
def isLeap (year : Nat) : Bool := year % 4 = 0 && (year % 100 ≠ 0 || year % 400 = 0)

/-- The number of days of a month. -/
def daysIn (year month : Nat) : Nat :=
  if month = 2 then (if isLeap year then 29 else 28)
  else if month = 4 ∨ month = 6 ∨ month = 9 ∨ month = 11 then 30
  else 31

/-- A date at the front of a text. -/
def readDate (cs : List Char) : Option (Date × List Char) := do
  let (century, cs) ← readPair 0 99 cs
  let (year, cs) ← readPair 0 99 cs
  let (month, cs) ← after? '-' cs >>= readPair 1 12
  let (day, cs) ← after? '-' cs >>= readPair 1 31
  let date : Date := ⟨century * 100 + year, month, day⟩
  if day ≤ daysIn date.year month then some (date, cs) else none

/-- A fraction of a second in nanoseconds; digits beyond the ninth do not count. -/
def nanosecondsOf (digits : List Char) : Nat :=
  let nine := (digits ++ List.replicate 9 '0').take 9
  Text.digitsValue 10 nine

/-- A time of day at the front of a text. -/
def readTime (lastHour : Nat) (cs : List Char) : Option (Time × List Char) := do
  let (hour, cs) ← readPair 0 lastHour cs
  let (minute, cs) ← after? ':' cs >>= readPair 0 59
  let (second, cs) ← after? ':' cs >>= readPair 0 60
  match after? '.' cs with
  | none => some (⟨hour, minute, second, 0⟩, cs)
  | some fraction =>
    let digits := fraction.takeWhile Text.isDigit
    if digits = [] then some (⟨hour, minute, second, 0⟩, cs)
    else some (⟨hour, minute, second, nanosecondsOf digits⟩, fraction.drop digits.length)

/-- What times and offsets may be. -/
structure Bounds where
  lastHour : Nat
  /-- The hours and minutes of an offset. -/
  offset : Nat → Nat → Bool

/-- Hours and minutes as on a clock. -/
def Bounds.clock : Bounds := ⟨23, fun hours minutes => hours ≤ 23 && minutes ≤ 59⟩

/-- The end of a day is a time of it, and an offset is at most a day. -/
def Bounds.wide : Bounds := ⟨24, fun hours minutes => hours * 60 + minutes ≤ 24 * 60⟩

/-- An offset at the front of a text. -/
def readOffset (bounds : Bounds) : List Char → Option (Offset × List Char)
  | [] => none
  | c :: cs =>
    if c = 'Z' ∨ c = 'z' then some (.zulu, cs)
    else if c = '+' ∨ c = '-' then do
      let (hours, cs) ← readPair 0 99 cs
      let (minutes, cs) ← after? ':' cs >>= readPair 0 99
      let n : Int := (hours * 60 + minutes : Nat)
      if bounds.offset hours minutes then some (.minutes (if c = '-' then -n else n), cs) else none
    else none

/-- The time behind a date, after a `T` or a blank. -/
def readTimeBehind (lastHour : Nat) : List Char → Option (Time × List Char)
  | [] => none
  | c :: cs => if c = 'T' ∨ c = 't' ∨ c = ' ' then readTime lastHour cs else none

/-- A moment within bounds at the front of a text. -/
def readMomentWithin (bounds : Bounds) (cs : List Char) : Option (Moment × List Char) :=
  match readDate cs with
  | none => (readTime bounds.lastHour cs).map fun r => (.time r.1, r.2)
  | some (d, afterDate) =>
    match readTimeBehind bounds.lastHour afterDate with
    | none => some (.date d, afterDate)
    | some (t, afterTime) =>
      match readOffset bounds afterTime with
      | none => some (.full d t none, afterTime)
      | some (offset, rest) => some (.full d t (some offset), rest)

/-- A moment at the front of a text. -/
def readMoment (cs : List Char) : Option (Moment × List Char) := readMomentWithin .clock cs

/-- The moment that is all of a text. -/
def Moment.ofText? (s : String) : Option Moment :=
  match readMomentWithin .wide s.toList with
  | some (m, []) => some m
  | _ => none

/-! ### Writing -/

/-- A date in digits. -/
def Date.toText (d : Date) : String :=
  Text.decimalPadded 4 d.year ++ "-" ++ Text.decimalPadded 2 d.month ++ "-"
    ++ Text.decimalPadded 2 d.day

/-- The nanoseconds as a fraction, without zeros at its end. -/
def fractionText (nanoseconds : Nat) : String :=
  if nanoseconds = 0 then ""
  else
    let digits := (Text.decimalPadded 9 nanoseconds).toList
    "." ++ String.ofList (digits.reverse.dropWhile (· = '0')).reverse

/-- A time in digits. -/
def Time.toText (t : Time) : String :=
  Text.decimalPadded 2 t.hour ++ ":" ++ Text.decimalPadded 2 t.minute ++ ":"
    ++ Text.decimalPadded 2 t.second ++ fractionText t.nanosecond

/-- An offset in hours and minutes. -/
def Offset.toText : Offset → String
  | zulu => "Z"
  | minutes n =>
    (if n < 0 then "-" else "+") ++ Text.decimalPadded 2 (n.natAbs / 60) ++ ":"
      ++ Text.decimalPadded 2 (n.natAbs % 60)

/-- A moment in digits. -/
def Moment.toText : Moment → String
  | date d => d.toText
  | time t => t.toText
  | full d t offset =>
    d.toText ++ "T" ++ t.toText
      ++ (match offset with
          | none => ""
          | some o => o.toText)

end Autosampler.Toml

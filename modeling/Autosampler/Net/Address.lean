import Autosampler.Text.Numeral

/-!
# Internet addresses

* `Address` — four bytes, or eight groups of sixteen bits;
* `Address.readFour`, `Address.readSix` — addresses at the front of a text;
* `Address.ofText?` — the address that a whole text denotes;
* `Address.toText` — the usual text of an address.

Bytes have no leading zeros.  Groups are hexadecimal with at most four digits; one row of zero
groups may be written as two colons, and the last two groups as four bytes.  In the usual text the
first of the longest rows of at least two zero groups is written as two colons.
-/

namespace Autosampler

/-- An internet address. -/
inductive Address where
  | four (a b c d : UInt8)
  | six (groups : Vector UInt16 8)
deriving DecidableEq

namespace Address

/-! ### Reading -/

/-- A number at the front of a text, of at most `width` digits of `base`. -/
def readNumber (base width : Nat) (cs : List Char) : Option (Nat × List Char) :=
  let digits := cs.takeWhile (Text.isDigitOf base)
  if digits = [] ∨ width < digits.length then none
  else some (Text.digitsValue base digits, cs.drop digits.length)

/-- A byte at the front of a text, in decimal and without leading zeros. -/
def readByte (cs : List Char) : Option (UInt8 × List Char) :=
  match readNumber 10 3 cs with
  | some (n, rest) =>
    if n < 256 ∧ (cs.head? ≠ some '0' ∨ rest.length + 1 = cs.length) then some (UInt8.ofNat n, rest)
    else none
  | none => none

/-- The text after a certain character. -/
def after? (mark : Char) : List Char → Option (List Char)
  | [] => none
  | c :: cs => if c = mark then some cs else none

/-- Four bytes at the front of a text, with points in between. -/
def readFour (cs : List Char) : Option ((UInt8 × UInt8 × UInt8 × UInt8) × List Char) := do
  let (a, cs) ← readByte cs
  let (b, cs) ← after? '.' cs >>= readByte
  let (c, cs) ← after? '.' cs >>= readByte
  let (d, cs) ← after? '.' cs >>= readByte
  some ((a, b, c, d), cs)

/-- A group of two bytes. -/
def pairOf (high low : UInt8) : UInt16 := high.toUInt16 * 256 + low.toUInt16

/-- The rest of a text where another group starts: behind a colon, unless it is the first. -/
def nextGroup? (first : Bool) (cs : List Char) : Option (List Char) :=
  if first then some cs else after? ':' cs

/-- At most `limit` groups at the front of a text.  Where two groups are left, four bytes may
stand for them, and then nothing follows; the answer says whether they did. -/
def readGroups : Nat → Bool → List Char → List UInt16 × Bool × List Char
  | 0, _, cs => ([], false, cs)
  | limit + 1, first, cs =>
    let bytes := if limit = 0 then none else nextGroup? first cs >>= readFour
    match bytes with
    | some ((a, b, c, d), rest) => ([pairOf a b, pairOf c d], true, rest)
    | none =>
      match nextGroup? first cs >>= readNumber 16 4 with
      | none => ([], false, cs)
      | some (n, rest) =>
        let (groups, inBytes, last) := readGroups limit false rest
        (UInt16.ofNat n :: groups, inBytes, last)

/-- The address of eight groups. -/
def ofGroups? (groups : List UInt16) : Option Address :=
  if h : groups.length = 8 then some (.six ⟨groups.toArray, by simp [h]⟩) else none

/-- Groups at the front of a text, with a row of zero groups put where two colons stand. -/
def readSix (cs : List Char) : Option (Address × List Char) :=
  let (head, inBytes, rest) := readGroups 8 true cs
  if head.length = 8 then (ofGroups? head).map fun a => (a, rest)
  else if inBytes then none
  else
    match rest with
    | ':' :: ':' :: rest' =>
      let (tail, _, last) := readGroups (7 - head.length) true rest'
      let zeros := List.replicate (8 - head.length - tail.length) 0
      (ofGroups? (head ++ zeros ++ tail)).map fun a => (a, last)
    | _ => none

/-- The address of a whole text. -/
def ofText? (s : String) : Option Address :=
  match readFour s.toList with
  | some ((a, b, c, d), rest) => if rest = [] then some (.four a b c d) else none
  | none =>
    match readSix s.toList with
    | some (address, []) => some address
    | _ => none

/-! ### Writing -/

/-- Four bytes with points in between. -/
def fourText (a b c d : UInt8) : String :=
  ".".intercalate ([a, b, c, d].map fun byte => Text.decimal byte.toNat)

/-- Groups with colons in between. -/
def groupsText (groups : List UInt16) : String :=
  ":".intercalate (groups.map fun g => String.ofList (Text.hexDigits g.toNat))

/-- The number of zero groups at the front. -/
def zerosAt (groups : List UInt16) : Nat := (groups.takeWhile (· = 0)).length

/-- The place and the length of the first of the longest rows of zero groups. -/
def longestZeros (groups : List UInt16) : Nat × Nat :=
  (List.range groups.length).foldl
    (fun best i =>
      if best.2 < zerosAt (groups.drop i) then (i, zerosAt (groups.drop i)) else best)
    (0, 0)

/-- Eight groups; the longest row of zero groups is left out. -/
def sixText (groups : List UInt16) : String :=
  let (start, length) := longestZeros groups
  if 1 < length then
    groupsText (groups.take start) ++ "::" ++ groupsText (groups.drop (start + length))
  else groupsText groups

/-- The usual text of an address.  An address of four bytes inside one of eight groups is shown
by its bytes. -/
def toText : Address → String
  | four a b c d => fourText a b c d
  | six groups =>
    match groups.toList with
    | [0, 0, 0, 0, 0, 0xffff, high, low] =>
      "::ffff:" ++ fourText (high / 256).toUInt8 high.toUInt8 (low / 256).toUInt8 low.toUInt8
    | gs => sixText gs

end Address

end Autosampler

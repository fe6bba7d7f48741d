import Autosampler.Toml.Value

/-!
# Words of settings files

* `isText` — the characters of texts and comments;
* `readBasic`, `readLiteral` — texts on one line, with and without escapes;
* `readBlock`, `readRawBlock` — texts over several lines;
* `readText` — any text;
* `readNumber` — whole and other numbers;
* `readScalar` — any value that is no list and no table.

A reader takes what stands at the front of a text and answers with the rest; it fails if the
front cannot be read.  Why it fails is not told.
-/

namespace Autosampler.Toml

/-- The characters of texts and comments: no control characters except the tabulator. -/
def isText (c : Char) : Bool := c = '\t' || (0x20 ≤ c.toNat && c.toNat ≠ 0x7F)

/-- A blank inside a line. -/
def isBlank (c : Char) : Bool := c = ' ' || c = '\t'

/-- What is read at the front of a text, and the rest. -/
abbrev Step (α : Type) := Option (α × List Char)

/-- Put a character in front of what is read. -/
def Step.cons (c : Char) (s : Step (List Char)) : Step (List Char) :=
  s.map fun r => (c :: r.1, r.2)

/-! ### Texts on one line -/

/-- The character that a short escape stands for. -/
def shortEscape? : Char → Option Char
  | 'b' => some '\x08'
  | 't' => some '\t'
  | 'n' => some '\n'
  | 'f' => some '\x0c'
  | 'r' => some '\r'
  | '"' => some '"'
  | '\\' => some '\\'
  | _ => none

/-- The character of a code in hexadecimal digits. -/
def coded? (digits : List Char) : Option Char :=
  match Text.digitsValue? 16 digits with
  | some n => if n.isValidChar then some (Char.ofNat n) else none
  | none => none

/-- The character of an escape, after the backslash. -/
def readEscape : List Char → Step Char
  | [] => none
  | c :: cs =>
    if c = 'u' then
      (coded? (cs.take 4)).bind fun d => if cs.length < 4 then none else some (d, cs.drop 4)
    else if c = 'U' then
      (coded? (cs.take 8)).bind fun d => if cs.length < 8 then none else some (d, cs.drop 8)
    else (shortEscape? c).map fun d => (d, cs)

theorem readEscape_length {cs : List Char} {c : Char} {rest : List Char}
    (h : readEscape cs = some (c, rest)) : rest.length < cs.length := by
  unfold readEscape at h
  split at h
  · simp at h
  · rename_i a as
    split at h
    · simp only [Option.bind_eq_some_iff] at h
      obtain ⟨d, -, h⟩ := h
      split at h
      · simp at h
      · simp only [Option.some.injEq, Prod.mk.injEq] at h
        rw [← h.2]
        simp only [List.length_drop, List.length_cons]
        omega
    · split at h
      · simp only [Option.bind_eq_some_iff] at h
        obtain ⟨d, -, h⟩ := h
        split at h
        · simp at h
        · simp only [Option.some.injEq, Prod.mk.injEq] at h
          rw [← h.2]
          simp only [List.length_drop, List.length_cons]
          omega
      · simp only [Option.map_eq_some_iff, Prod.mk.injEq] at h
        obtain ⟨d, -, -, rfl⟩ := h
        simp

/-- A text with escapes, after its opening quote. -/
def readBasic (cs : List Char) : Step (List Char) :=
  match cs with
  | [] => none
  | c :: rest =>
    if c = '"' then some ([], rest)
    else if c = '\\' then
      match h : readEscape rest with
      | none => none
      | some (d, after) =>
        have := readEscape_length h
        (readBasic after).cons d
    else if isText c then (readBasic rest).cons c
    else none
termination_by cs.length
decreasing_by
  all_goals simp only [List.length_cons]
  all_goals omega

/-- A text without escapes, after its opening apostrophe. -/
def readLiteral : List Char → Step (List Char)
  | [] => none
  | c :: rest =>
    if c = '\'' then some ([], rest) else if isText c then (readLiteral rest).cons c else none

/-! ### Texts over several lines -/

/-- The rest of a text after the end of a line, if a line ends at its front. -/
def afterNewline? : List Char → Option (List Char)
  | '\n' :: rest => some rest
  | '\r' :: '\n' :: rest => some rest
  | _ => none

/-- The text without the end of a line at its front. -/
def dropNewline (cs : List Char) : List Char := (afterNewline? cs).getD cs

/-- The rest after three quotation marks. -/
def afterThree? (quote : Char) : List Char → Option (List Char)
  | a :: b :: c :: rest => if a = quote ∧ b = quote ∧ c = quote then some rest else none
  | _ => none

/-- The end of a text over several lines: up to two quotation marks more than the three that end
it belong to it. -/
def closeBlock (quote : Char) : List Char → List Char × List Char
  | a :: b :: rest =>
    if a = quote then (if b = quote then ([a, b], rest) else ([a], b :: rest))
    else ([], a :: b :: rest)
  | [a] => if a = quote then ([a], []) else ([], [a])
  | [] => ([], [])

/-- The rest of a line holds blanks only. -/
def endsLine (cs : List Char) : Bool := (afterNewline? (cs.dropWhile isBlank)).isSome

/-- A text with escapes over several lines, after its opening.  A backslash at the end of a line
takes all blanks and ends of lines behind it away; `joining` says that this is going on. -/
def readBlock (joining : Bool) (cs : List Char) : Step (List Char) :=
  match cs with
  | [] => none
  | c :: rest =>
    match afterThree? '"' (c :: rest) with
    | some after => some (closeBlock '"' after)
    | none =>
      if c = '\\' then
        if endsLine rest then readBlock true rest
        else
          match h : readEscape rest with
          | none => none
          | some (d, after) =>
            have := readEscape_length h
            (readBlock false after).cons d
      else if c = '\n' then
        if joining then readBlock true rest else (readBlock false rest).cons '\n'
      else if c = '\r' then
        if rest.head? = some '\n' then readBlock joining rest else none
      else if isBlank c && joining then readBlock true rest
      else if isText c then (readBlock false rest).cons c
      else none
termination_by cs.length
decreasing_by
  all_goals simp only [List.length_cons]
  all_goals omega

/-- A text without escapes over several lines, after its opening. -/
def readRawBlock : List Char → Step (List Char)
  | [] => none
  | c :: rest =>
    match afterThree? '\'' (c :: rest) with
    | some after => some (closeBlock '\'' after)
    | none =>
      if c = '\n' then (readRawBlock rest).cons '\n'
      else if c = '\r' then if rest.head? = some '\n' then readRawBlock rest else none
      else if isText c then (readRawBlock rest).cons c
      else none

/-- A text with its quotation marks. -/
def readText (cs : List Char) : Step (List Char) :=
  match afterThree? '"' cs, afterThree? '\'' cs, cs with
  | some block, _, _ => readBlock false (dropNewline block)
  | _, some block, _ => readRawBlock (dropNewline block)
  | _, _, '"' :: rest => readBasic rest
  | _, _, '\'' :: rest => readLiteral rest
  | _, _, _ => none

/-! ### Numbers -/

/-- The digits behind a digit; a single underscore may stand between two of them. -/
def moreDigits (base : Nat) : List Char → Step (List Char)
  | [] => some ([], [])
  | c :: rest =>
    if c = '_' then
      match rest with
      | [] => none
      | d :: rest' => if Text.isDigitOf base d then (moreDigits base rest').cons d else none
    else if Text.isDigitOf base c then (moreDigits base rest).cons c
    else some ([], c :: rest)

/-- At least one digit. -/
def readDigits (base : Nat) : List Char → Step (List Char)
  | [] => none
  | c :: rest => if Text.isDigitOf base c then (moreDigits base rest).cons c else none

/-- The digits of a decimal number: a zero stands alone. -/
def readWhole : List Char → Step (List Char)
  | '0' :: rest => some (['0'], rest)
  | cs => readDigits 10 cs

/-- The sign at the front of a number. -/
def readSign : List Char → Bool × List Char
  | '-' :: rest => (true, rest)
  | '+' :: rest => (false, rest)
  | cs => (false, cs)

/-- The digits after the point of a number, if it has one. -/
def readFraction : List Char → Step (List Char)
  | '.' :: rest => readDigits 10 rest
  | cs => some ([], cs)

/-- The exponent of a number, if it has one. -/
def readExponent : List Char → Step (Option Int)
  | [] => some (none, [])
  | c :: rest =>
    if c = 'e' ∨ c = 'E' then
      let (down, ds) := readSign rest
      (readDigits 10 ds).map fun r =>
        let n : Int := Text.digitsValue 10 r.1
        (some (if down then -n else n), r.2)
    else some (none, c :: rest)

/-- The smallest number that is nearer to no double than to the first power of two beyond them. -/
def doubleLimit : Nat := Nat.pow 2 1024 - Nat.pow 2 970

/-- The decimal `digits * 10 ^ exponent` is too large for a double. -/
def tooLarge (digits : Nat) (exponent : Int) : Bool :=
  let top := ((Text.decimalDigits digits).length : Int) + exponent
  if digits = 0 ∨ top ≤ 308 then false
  else if 310 ≤ top then true
  else doubleLimit * Nat.pow 10 (-exponent).toNat ≤ digits * Nat.pow 10 exponent.toNat

/-- A whole number within 64 bits. -/
def integer? (n : Int) : Option Value :=
  if -(Nat.pow 2 63) ≤ n ∧ n < Nat.pow 2 63 then some (.integer n) else none

/-- A decimal number after its sign. -/
def readDecimal (negative : Bool) (cs : List Char) : Option (Value × List Char) := do
  let (whole, cs) ← readWhole cs
  let (fraction, cs) ← readFraction cs
  let (exponent, cs) ← readExponent cs
  let digits := Text.digitsValue 10 (whole ++ fraction)
  if fraction = [] ∧ exponent = none then
    let n : Int := digits
    (integer? (if negative then -n else n)).map fun v => (v, cs)
  else
    let e := exponent.getD 0 - (fraction.length : Int)
    if !negative && tooLarge digits e then none else some (.real (.decimal negative digits e), cs)

/-- A whole number in another base, after the letter that tells the base. -/
def readBased (base : Nat) (cs : List Char) : Option (Value × List Char) := do
  let (digits, cs) ← readDigits base cs
  let v ← integer? (Text.digitsValue base digits)
  some (v, cs)

/-- The rest of a text after a word, if it starts with it. -/
def afterWord? (word : String) (cs : List Char) : Option (List Char) :=
  if word.toList.isPrefixOf cs then some (cs.drop word.length) else none

/-- A number. -/
def readNumber (cs : List Char) : Step Value :=
  match cs with
  | '0' :: 'x' :: rest => readBased 16 rest
  | '0' :: 'o' :: rest => readBased 8 rest
  | '0' :: 'b' :: rest => readBased 2 rest
  | _ =>
    let (negative, rest) := readSign cs
    match afterWord? "inf" rest, afterWord? "nan" rest with
    | some after, _ => some (.real (.infinity negative), after)
    | _, some after => some (.real .undefined, after)
    | _, _ => readDecimal negative rest

/-- A truth value. -/
def readBool (cs : List Char) : Step Value :=
  match afterWord? "true" cs, afterWord? "false" cs with
  | some rest, _ => some (.bool true, rest)
  | _, some rest => some (.bool false, rest)
  | _, _ => none

/-- A value on its own: no list and no table. -/
def readScalar (cs : List Char) : Step Value :=
  match cs with
  | [] => none
  | c :: _ =>
    if c = '"' ∨ c = '\'' then (readText cs).map fun r => (.text (String.ofList r.1), r.2)
    else if c = 't' ∨ c = 'f' then readBool cs
    else ((readMoment cs).map fun r => (.moment r.1, r.2)).or (readNumber cs)

end Autosampler.Toml

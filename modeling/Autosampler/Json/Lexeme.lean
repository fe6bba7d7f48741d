import Autosampler.Text.Numeral

/-!
# Words of the JSON text format

The format is read in one pass over the characters, and the first thing that cannot be read
decides how the reading fails.

* `Fault` — the three ways to fail: not the format, cut short, or of an unexpected type;
* `skipBlank`, `readWord` — blanks between words, and the rest of a keyword;
* `readText` — a text after its opening quote, and `passText`, which does not look at what its
  escapes stand for;
* `Number`, `readNumber`, `passNumber` — numbers, kept exactly as long as they fit 64 bits.
-/

namespace Autosampler.Json

/-- Why a JSON text could not be read. -/
inductive Fault where
  /-- The text breaks the format. -/
  | malformed
  /-- The text ends too early. -/
  | cut
  /-- A value does not fit the type that is read. -/
  | unfit (reason : String)
deriving DecidableEq

/-- The wording of a fault. -/
def Fault.message : Fault → String
  | malformed => "malformed text"
  | cut => "unexpected end of text"
  | unfit reason => reason

/-- The result of reading something at the front of a text: what was read, and the rest. -/
abbrev Step (α : Type) := Except Fault (α × List Char)

/-! ### Blanks and keywords -/

/-- White space of the format. -/
def isBlank (c : Char) : Bool := c == ' ' || c == '\n' || c == '\t' || c == '\r'

/-- Drop the white space at the front. -/
def skipBlank (cs : List Char) : List Char := cs.dropWhile isBlank

/-- The rest of a keyword whose first letter was read. -/
def readWord : List Char → List Char → Except Fault (List Char)
  | [], cs => .ok cs
  | _ :: _, [] => .error .cut
  | w :: ws, c :: cs => if w = c then readWord ws cs else .error .malformed

/-! ### Texts -/

/-- The number of bytes of a text. -/
def byteCount (cs : List Char) : Nat := cs.foldl (fun n c => n + c.utf8Size) 0

/-- Four hexadecimal digits.  With fewer than four bytes left the text was cut. -/
def readHex4 (cs : List Char) : Step Nat :=
  if byteCount (cs.take 4) < 4 then .error .cut
  else
    match cs with
    | a :: b :: c :: d :: rest =>
      match Text.digitsValue? 16 [a, b, c, d] with
      | some n => .ok (n, rest)
      | none => .error .malformed
    | _ => .error .malformed

/-- The code of the first half of a pair. -/
def isLead (n : Nat) : Bool := 0xD800 ≤ n && n ≤ 0xDBFF

/-- The code of the second half of a pair. -/
def isTrail (n : Nat) : Bool := 0xDC00 ≤ n && n ≤ 0xDFFF

/-- The second half of a pair, after the first half `lead`. -/
def readTrail (lead : Nat) : List Char → Step Char
  | [] => .error .cut
  | '\\' :: [] => .error .cut
  | '\\' :: 'u' :: cs =>
    match readHex4 cs with
    | .error fault => .error fault
    | .ok (n, rest) =>
      if isTrail n then
        .ok (Char.ofNat (0x10000 + (lead - 0xD800) * 0x400 + (n - 0xDC00)), rest)
      else .error .malformed
  | _ => .error .malformed

/-- The character that a short escape stands for. -/
def shortEscape? : Char → Option Char
  | '"' => some '"'
  | '\\' => some '\\'
  | '/' => some '/'
  | 'b' => some '\x08'
  | 'f' => some '\x0c'
  | 'n' => some '\n'
  | 'r' => some '\r'
  | 't' => some '\t'
  | _ => none

/-- The character of an escape, after the backslash. -/
def readEscape : List Char → Step Char
  | [] => .error .cut
  | 'u' :: cs =>
    match readHex4 cs with
    | .error fault => .error fault
    | .ok (n, rest) =>
      if isTrail n then .error .malformed
      else if isLead n then readTrail n rest
      else .ok (Char.ofNat n, rest)
  | c :: cs =>
    match shortEscape? c with
    | some d => .ok (d, cs)
    | none => .error .malformed

/-- An escape whose meaning does not matter: only its form is looked at. -/
def passEscape : List Char → Except Fault (List Char)
  | [] => .error .cut
  | 'u' :: cs => (readHex4 cs).map Prod.snd
  | c :: cs => if (shortEscape? c).isSome then .ok cs else .error .malformed

theorem readHex4_length {cs : List Char} {n : Nat} {rest : List Char}
    (h : readHex4 cs = .ok (n, rest)) : rest.length ≤ cs.length := by
  unfold readHex4 at h
  split at h
  · simp at h
  · split at h
    · split at h
      · simp only [Except.ok.injEq, Prod.mk.injEq] at h
        obtain ⟨-, rfl⟩ := h
        simp only [List.length_cons]
        omega
      · simp at h
    · simp at h

theorem readTrail_length {lead : Nat} {cs : List Char} {c : Char} {rest : List Char}
    (h : readTrail lead cs = .ok (c, rest)) : rest.length ≤ cs.length := by
  unfold readTrail at h
  split at h
  · simp at h
  · simp at h
  · split at h
    · simp at h
    · rename_i n after hx
      split at h
      · simp only [Except.ok.injEq, Prod.mk.injEq] at h
        obtain ⟨-, rfl⟩ := h
        have := readHex4_length hx
        simp only [List.length_cons]
        omega
      · simp at h
  · simp at h

theorem readEscape_length {cs : List Char} {c : Char} {rest : List Char}
    (h : readEscape cs = .ok (c, rest)) : rest.length ≤ cs.length := by
  unfold readEscape at h
  split at h
  · simp at h
  · split at h
    · simp at h
    · rename_i n after hx
      have hlen := readHex4_length hx
      split at h
      · simp at h
      · split at h
        · have := readTrail_length h
          simp only [List.length_cons]
          omega
        · simp only [Except.ok.injEq, Prod.mk.injEq] at h
          obtain ⟨-, rfl⟩ := h
          simp only [List.length_cons]
          omega
  · split at h
    · simp only [Except.ok.injEq, Prod.mk.injEq] at h
      obtain ⟨-, rfl⟩ := h
      simp
    · simp at h

theorem passEscape_length {cs rest : List Char} (h : passEscape cs = .ok rest) :
    rest.length ≤ cs.length := by
  unfold passEscape at h
  split at h
  · simp at h
  · rename_i cs
    cases hx : readHex4 cs with
    | error f => simp [hx, Except.map] at h
    | ok r =>
      obtain ⟨n, r⟩ := r
      simp only [hx, Except.map, Except.ok.injEq] at h
      have := readHex4_length hx
      simp only [List.length_cons, ← h]
      omega
  · split at h
    · simp only [Except.ok.injEq] at h
      simp [← h]
    · simp at h

/-- The characters of a text, after its opening quote. -/
def readText (cs : List Char) : Step (List Char) :=
  match cs with
  | [] => .error .cut
  | '"' :: rest => .ok ([], rest)
  | '\\' :: escape =>
    match h : readEscape escape with
    | .error fault => .error fault
    | .ok (c, rest) =>
      have := readEscape_length h
      match readText rest with
      | .error fault => .error fault
      | .ok (text, after) => .ok (c :: text, after)
  | c :: rest =>
    if c.toNat < 0x20 then .error .malformed
    else
      match readText rest with
      | .error fault => .error fault
      | .ok (text, after) => .ok (c :: text, after)
termination_by cs.length
decreasing_by
  all_goals simp only [List.length_cons]
  all_goals omega

/-- The rest after a text whose meaning does not matter, after its opening quote. -/
def passText (cs : List Char) : Except Fault (List Char) :=
  match cs with
  | [] => .error .cut
  | '"' :: rest => .ok rest
  | '\\' :: escape =>
    match h : passEscape escape with
    | .error fault => .error fault
    | .ok rest =>
      have := passEscape_length h
      passText rest
  | c :: rest => if c.toNat < 0x20 then .error .malformed else passText rest
termination_by cs.length
decreasing_by
  all_goals simp only [List.length_cons]
  all_goals omega

/-! ### Numbers -/

/-- A number of the format. -/
inductive Number where
  /-- A whole number below `2 ^ 64`. -/
  | natural (n : Nat)
  /-- The opposite of a whole number from one to `2 ^ 63`. -/
  | negative (n : Nat)
  /-- Any other number, as a double. -/
  | real (value : Float)

/-- The digits at the front, and the rest. -/
def takeDigits (cs : List Char) : List Char × List Char :=
  (cs.takeWhile Text.isDigit, cs.dropWhile Text.isDigit)

/-- Put digits behind a number as long as it stays a 64-bit word; the answer also says how many
digits were left over. -/
def packDigits : Nat → List Char → Nat × Nat
  | n, [] => (n, 0)
  | n, d :: ds =>
    let longer := n * 10 + Text.digitValue d
    if longer < Text.word64 then packDigits longer ds else (n, ds.length + 1)

/-- `f` times the power of ten of an exponent, in steps that a double can hold.  A number beyond
the doubles is no number of the format. -/
def scaleFloat : Nat → Float → Int → Except Fault Float
  | 0, f, _ => .ok f
  | fuel + 1, f, e =>
    if e.natAbs ≤ 308 then
      let power := Float.ofScientific 1 false e.natAbs
      if 0 ≤ e then
        if (f * power).isInf then .error .malformed else .ok (f * power)
      else .ok (f / power)
    else if f == 0.0 then .ok f
    else if 0 ≤ e then .error .malformed
    else scaleFloat fuel (f / 1e308) (e + 308)

/-- The double of a decimal significand and exponent.  After a few divisions by the largest
power of ten nothing is left of any significand. -/
def toFloat (negated : Bool) (significand : Nat) (e : Int) : Except Fault Float :=
  (scaleFloat 8 significand.toUInt64.toFloat e).map fun f => if negated then -f else f

/-- The exponent of a number, after its mark: digits with an optional sign. -/
def readExponent : List Char → Step Int
  | cs =>
    let (down, ds) :=
      match cs with
      | '+' :: rest => (false, rest)
      | '-' :: rest => (true, rest)
      | _ => (false, cs)
    match takeDigits ds with
    | ([], []) => .error .cut
    | ([], _ :: _) => .error .malformed
    | (digits, rest) =>
      let n : Int := Text.digitsValue 10 digits
      .ok (if down then -n else n, rest)

/-- A double, and the text behind it. -/
def finishReal (negated : Bool) (significand : Nat) (e : Int) (rest : List Char) : Step Number :=
  match toFloat negated significand e with
  | .error fault => .error fault
  | .ok f => .ok (.real f, rest)

/-- A double whose digits and exponent before the exponent mark are known. -/
def readReal (negated : Bool) (significand : Nat) (e : Int) (cs : List Char) : Step Number :=
  match cs with
  | [] => finishReal negated significand e cs
  | mark :: after =>
    if mark = 'e' || mark = 'E' then
      match readExponent after with
      | .error fault => .error fault
      | .ok (shift, rest) => finishReal negated significand (e + shift) rest
    else finishReal negated significand e cs

/-- A number, after its minus sign if it has one. -/
def readNumber (negated : Bool) (cs : List Char) : Step Number :=
  match takeDigits cs with
  | ([], []) => .error .cut
  | ([], _ :: _) => .error .malformed
  | ('0' :: _ :: _, _) => .error .malformed
  | (digits, rest) =>
    let (n, dropped) := packDigits 0 digits
    match rest with
    | '.' :: fraction =>
      match takeDigits fraction with
      | ([], []) => .error .cut
      | ([], _ :: _) => .error .malformed
      | (decimals, after) =>
        let (m, left) := packDigits n decimals
        readReal negated m ((dropped : Int) - ((decimals.length - left : Nat) : Int)) after
    | 'e' :: _ => readReal negated n dropped rest
    | 'E' :: _ => readReal negated n dropped rest
    | _ =>
      if 0 < dropped then readReal negated n dropped rest
      else if !negated then .ok (.natural n, rest)
      else if n = 0 || Nat.pow 2 63 < n then finishReal true n 0 rest
      else .ok (.negative n, rest)

/-- The rest after the digits of an exponent whose value does not matter. -/
def passExponent (cs : List Char) : Except Fault (List Char) :=
  let ds :=
    match cs with
    | '+' :: rest => rest
    | '-' :: rest => rest
    | _ => cs
  match takeDigits ds with
  | ([], _) => .error .malformed
  | (_, rest) => .ok rest

/-- The rest after the exponent of a number, if it has one. -/
def passReal : List Char → Except Fault (List Char)
  | mark :: cs => if mark = 'e' || mark = 'E' then passExponent cs else .ok (mark :: cs)
  | [] => .ok []

/-- The rest after a number whose value does not matter, after its minus sign. -/
def passNumber (cs : List Char) : Except Fault (List Char) :=
  match takeDigits cs with
  | ([], _) => .error .malformed
  | ('0' :: _ :: _, _) => .error .malformed
  | (_, '.' :: fraction) =>
    match takeDigits fraction with
    | ([], _) => .error .malformed
    | (_, after) => passReal after
  | (_, rest) => passReal rest

end Autosampler.Json

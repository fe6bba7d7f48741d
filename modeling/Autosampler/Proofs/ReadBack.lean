import Autosampler.Json.Printer
import Autosampler.Proofs.Numerals
import Mathlib.Tactic.SplitIfs

/-!
# Printed values are read back

Reading what was printed gives the value back and stops where the print ends, whatever stands
behind it.  Lists and objects are read by loops that do not care what an item is, so each loop has
one lemma, for any reader of items.

* `Json.Stops`, `Json.Opens` — what may stand behind a number, and what a value may start with;
* `Json.readText_flatMap_escaped`, `Json.readNumber_natural` — texts and whole numbers;
* `Json.ReadsAs`, `Json.readItems_print`, `Json.readPairs_print` — the loops over items and
  members;
* `Json.Value.Plain`, `Json.Value.height`, `Json.Value.read_print` — any value whose numbers are
  whole;
* `Json.readAll_toText`, `Json.Value.ofText_toText` — whole texts.
-/

namespace Autosampler

namespace Json

open Text (isDigit)

/-! ### Where a value starts and ends -/

/-- What stands here does not go on with a number. -/
def Stops : List Char → Prop
  | [] => True
  | c :: _ => isDigit c = false ∧ c ≠ '.' ∧ c ≠ 'e' ∧ c ≠ 'E'

theorem stops_nil : Stops [] := trivial

theorem stops_comma (rest : List Char) : Stops (',' :: rest) := by simp [Stops, isDigit]

theorem stops_bracket (rest : List Char) : Stops (']' :: rest) := by simp [Stops, isDigit]

theorem stops_brace (rest : List Char) : Stops ('\x7d' :: rest) := by simp [Stops, isDigit]

/-- A value starts here: no blank, no comma and no closing bracket. -/
def Opens (part : List Char) : Prop :=
  ∃ c rest, part = c :: rest ∧ isBlank c = false ∧ c ≠ ']' ∧ c ≠ ','

/-- A character that is no digit is not one of them. -/
theorem ne_of_isDigit {c d : Char} (h : isDigit c = true) (hd : isDigit d = false) : c ≠ d := by
  rintro rfl
  rw [h] at hd
  cases hd

theorem isBlank_of_isDigit {c : Char} (h : isDigit c = true) : isBlank c = false := by
  simp [isBlank, ne_of_isDigit h (show isDigit ' ' = false by decide),
    ne_of_isDigit h (show isDigit '\n' = false by decide),
    ne_of_isDigit h (show isDigit '\t' = false by decide),
    ne_of_isDigit h (show isDigit '\r' = false by decide)]

theorem opens_decimalDigits (n : Nat) : Opens (Text.decimalDigits n) := by
  obtain ⟨d, ds, hdigits, hd, -⟩ := Text.head_decimalDigits n
  exact ⟨d, ds, hdigits, isBlank_of_isDigit hd, ne_of_isDigit hd (by decide),
    ne_of_isDigit hd (by decide)⟩

theorem skipBlank_cons {c : Char} (h : isBlank c = false) (cs : List Char) :
    skipBlank (c :: cs) = c :: cs := by simp [skipBlank, h]

theorem skipBlank_quote (cs : List Char) : skipBlank ('"' :: cs) = '"' :: cs := rfl

theorem skipBlank_brace (cs : List Char) : skipBlank ('\x7b' :: cs) = '\x7b' :: cs := rfl

theorem skipBlank_comma (cs : List Char) : skipBlank (',' :: cs) = ',' :: cs := rfl

/-! ### Texts -/

theorem readHex4_escapedControl {n : Nat} (h : n < 0x20) (rest : List Char) :
    readHex4 ('0' :: '0' :: Text.digitCharOf (n / 16) :: Text.digitCharOf (n % 16) :: rest)
      = .ok (n, rest) := by
  have hall : ∀ m : Fin 0x20,
      let digits := ['0', '0', Text.digitCharOf (m.val / 16), Text.digitCharOf (m.val % 16)]
      byteCount digits = 4 ∧ Text.digitsValue? 16 digits = some m.val := by decide
  obtain ⟨hbytes, hvalue⟩ := hall ⟨n, h⟩
  unfold readHex4
  rw [List.take_succ_cons, List.take_succ_cons, List.take_succ_cons, List.take_succ_cons,
    List.take_zero, hbytes, if_neg (by decide)]
  simp only [hvalue]

/-- The three ways to write a character. -/
theorem escaped_cases (c : Char) :
    (∃ d, escaped c = ['\\', d] ∧ shortEscape? d = some c ∧ d ≠ 'u') ∨
      (c.toNat < 0x20 ∧ escaped c = escapedControl c.toNat) ∨
      (c ≠ '"' ∧ c ≠ '\\' ∧ 0x20 ≤ c.toNat ∧ escaped c = [c]) := by
  by_cases hcontrol : c.toNat < 0x20
  all_goals
    unfold escaped
    split_ifs
  all_goals first
    | exact Or.inl ⟨_, rfl, by subst c; rfl, by decide⟩
    | exact Or.inr (Or.inl ⟨hcontrol, rfl⟩)
    | exact Or.inr (Or.inr ⟨‹_›, ‹_›, by omega, rfl⟩)

theorem readEscape_of_short {c d : Char} (h : shortEscape? d = some c) (hd : d ≠ 'u')
    (cs : List Char) : readEscape (d :: cs) = .ok (c, cs) := by
  unfold readEscape
  split
  · rename_i heq
    cases heq
  · rename_i heq
    exact absurd (List.cons.inj heq).1 hd
  · rename_i heq
    cases heq
    rw [h]

theorem readEscape_control {c : Char} (h : c.toNat < 0x20) (cs : List Char) :
    readEscape ('u' :: '0' :: '0' :: Text.digitCharOf (c.toNat / 16)
      :: Text.digitCharOf (c.toNat % 16) :: cs) = .ok (c, cs) := by
  have htrail : isTrail c.toNat = false := by simp [isTrail]; omega
  have hlead : isLead c.toNat = false := by simp [isLead]; omega
  simp only [readEscape, readHex4_escapedControl h, htrail, hlead, Bool.false_eq_true, if_false,
    Char.ofNat_toNat]

/-- An escape stands for one character of the text. -/
theorem readText_escape {c : Char} {escape cs : List Char} (h : readEscape escape = .ok (c, cs)) :
    readText ('\\' :: escape) = (readText cs).map fun r => (c :: r.1, r.2) := by
  rw [readText]
  split
  · rename_i heq
    rw [h] at heq
    cases heq
  · rename_i heq
    rw [h] at heq
    cases heq
    cases readText cs <;> rfl

/-- A character of a text is read as itself. -/
theorem readText_escaped (c : Char) (cs : List Char) :
    readText (escaped c ++ cs) = (readText cs).map fun r => (c :: r.1, r.2) := by
  rcases escaped_cases c with ⟨d, hc, hshort, hd⟩ | ⟨hcontrol, hc⟩ | ⟨hquote, hslash, hplain, hc⟩
  · rw [hc]
    exact readText_escape (readEscape_of_short hshort hd cs)
  · rw [hc]
    exact readText_escape (readEscape_control hcontrol cs)
  · rw [hc, List.singleton_append, readText]
    · rw [if_neg (by omega)]
      cases readText cs <;> rfl
    · exact hquote
    · exact hslash

/-- A text is read up to its closing quote. -/
theorem readText_flatMap_escaped (s rest : List Char) :
    readText (s.flatMap escaped ++ '"' :: rest) = .ok (s, rest) := by
  induction s with
  | nil => rw [List.flatMap_nil, List.nil_append, readText]
  | cons c s ih =>
    rw [List.flatMap_cons, List.append_assoc, readText_escaped, ih]
    rfl

/-! ### Whole numbers -/

theorem takeDigits_append {digits rest : List Char} (h : ∀ c ∈ digits, isDigit c = true)
    (hr : Stops rest) : takeDigits (digits ++ rest) = (digits, rest) := by
  have hnone : rest.takeWhile isDigit = [] ∧ rest.dropWhile isDigit = rest := by
    cases rest with
    | nil => exact ⟨rfl, rfl⟩
    | cons c rest => simp [hr.1]
  rw [takeDigits, List.takeWhile_append_of_pos h, List.dropWhile_append_of_pos h, hnone.1, hnone.2,
    List.append_nil]

/-- The value of the digits so far does not fall. -/
theorem le_foldl_digits (n : Nat) (ds : List Char) :
    n ≤ ds.foldl (fun n d => n * 10 + Text.digitValue d) n := by
  induction ds generalizing n with
  | nil => exact Nat.le_refl n
  | cons d ds ih =>
    have hstep := ih (n * 10 + Text.digitValue d)
    rw [List.foldl_cons]
    omega

/-- No digit is left over if the value fits a word. -/
theorem packDigits_eq {n : Nat} {ds : List Char}
    (h : ds.foldl (fun n d => n * 10 + Text.digitValue d) n < Text.word64) :
    packDigits n ds = (ds.foldl (fun n d => n * 10 + Text.digitValue d) n, 0) := by
  induction ds generalizing n with
  | nil => rfl
  | cons d ds ih =>
    have hfits := Nat.lt_of_le_of_lt (le_foldl_digits _ ds) h
    rw [packDigits, if_pos hfits]
    exact ih h

theorem readNumber_natural {n : Nat} (h : n < Text.word64) {rest : List Char} (hr : Stops rest) :
    readNumber false (Text.decimalDigits n ++ rest) = .ok (.natural n, rest) := by
  have htake := takeDigits_append (fun c => Text.isDigit_of_mem_decimalDigits (n := n)) hr
  have hpack : packDigits 0 (Text.decimalDigits n) = (n, 0) := by
    have hvalue := Text.digitsValue_decimalDigits n
    unfold Text.digitsValue at hvalue
    rw [packDigits_eq (by rw [hvalue]; exact h), hvalue]
  have hne := Text.decimalDigits_ne_nil n
  unfold readNumber
  rw [htake]
  split
  · exact absurd (Prod.mk.inj ‹_›).1 hne
  · exact absurd (Prod.mk.inj ‹_›).1 hne
  · rename_i heq
    obtain ⟨hzero, -⟩ := Prod.mk.inj heq
    exact absurd hzero (Text.decimalDigits_ne_zero_cons n)
  · rename_i heq
    obtain ⟨rfl, rfl⟩ := Prod.mk.inj heq
    rw [hpack]
    dsimp only
    cases rest with
    | nil => rfl
    | cons c rest =>
      obtain ⟨-, hpoint, he, hE⟩ := hr
      split
      · exact absurd (List.cons.inj ‹_›).1 hpoint
      · exact absurd (List.cons.inj ‹_›).1 he
      · exact absurd (List.cons.inj ‹_›).1 hE
      · rfl

/-! ### Items and members -/

/-- Reading a part gives `a` and stops behind the part. -/
def ReadsAs {α : Type} (item : List Char → Step α) (part : List Char) (a : α) : Prop :=
  ∀ rest, Stops rest → item (part ++ rest) = .ok (a, rest)

theorem commaSeparated_cons (part : List Char) (parts : List (List Char)) :
    commaSeparated (part :: parts) = part ++ parts.flatMap (',' :: ·) := by
  induction parts generalizing part with
  | nil => rw [commaSeparated, List.flatMap_nil, List.append_nil]
  | cons next parts ih =>
    rw [commaSeparated, ih]
    · rfl
    · exact List.cons_ne_nil next parts

theorem length_le_commaSeparated (parts : List (List Char)) :
    parts.length ≤ (commaSeparated parts).length + 1 := by
  induction parts with
  | nil => exact Nat.zero_le _
  | cons part parts ih =>
    cases parts with
    | nil => exact Nat.succ_le_succ (Nat.zero_le _)
    | cons next parts =>
      rw [commaSeparated, List.length_append, List.length_cons, List.length_cons]
      · exact Nat.succ_le_succ (Nat.le_trans ih (Nat.le_add_left _ _))
      · exact List.cons_ne_nil next parts

/-- A text bounds the number of its parts. -/
theorem length_lt_of_commaSeparated (parts : List (List Char)) (c : Char) (rest : List Char) :
    parts.length < (commaSeparated parts ++ c :: rest).length + 1 := by
  have hparts := length_le_commaSeparated parts
  rw [List.length_append, List.length_cons]
  omega

theorem nextItem_first {part : List Char} (h : Opens part) (rest : List Char) :
    nextItem true (part ++ rest) = .ok (true, part ++ rest) := by
  obtain ⟨c, tail, rfl, hblank, hclose, hcomma⟩ := h
  rw [nextItem, List.cons_append, skipBlank_cons hblank]
  split
  · cases ‹_›
  · exact absurd (List.cons.inj ‹_›).1 hclose
  · exact absurd (List.cons.inj ‹_›).1 hcomma
  · rfl

theorem nextItem_comma {part : List Char} (h : Opens part) (rest : List Char) :
    nextItem false (',' :: (part ++ rest)) = .ok (true, part ++ rest) := by
  obtain ⟨c, tail, rfl, hblank, hclose, -⟩ := h
  simp only [nextItem, skipBlank_comma, List.cons_append,
    skipBlank_cons hblank, Bool.false_eq_true, if_false]
  split
  · cases ‹_›
  · exact absurd (List.cons.inj ‹_›).1 hclose
  · rfl

/-- What stands behind a part is a comma or the closing mark. -/
theorem stops_rest {closing : List Char} (h : Stops closing) (parts : List (List Char)) :
    Stops (parts.flatMap (',' :: ·) ++ closing) := by
  cases parts with
  | nil => exact h
  | cons part parts => exact stops_comma _

theorem exists_pred {n bound : Nat} (h : n < bound) : ∃ left, bound = left + 1 ∧ n ≤ left :=
  ⟨bound - 1, by omega, by omega⟩

section Items

variable {α : Type} {item : List Char → Step α} {print : α → List Char} {bound : Nat}

/-- The items behind the first one, each after its comma. -/
theorem readItems_rest {as : List α} (h : ∀ a ∈ as, Opens (print a) ∧ ReadsAs item (print a) a)
    (hb : (as.map print).length < bound) (rest : List Char) :
    readItems item bound false ((as.map print).flatMap (',' :: ·) ++ ']' :: rest)
      = .ok (as, rest) := by
  induction as generalizing bound with
  | nil =>
    obtain ⟨left, rfl, -⟩ := exists_pred hb
    rfl
  | cons a as ih =>
    obtain ⟨⟨hopens, hreads⟩, h⟩ := List.forall_mem_cons.mp h
    obtain ⟨left, rfl, hleft⟩ := exists_pred hb
    rw [List.map_cons, List.flatMap_cons, List.append_assoc, List.cons_append]
    simp only [readItems, nextItem_comma hopens, hreads _ (stops_rest (stops_bracket rest) _),
      ih h hleft]

/-- The items of a list, up to its closing bracket. -/
theorem readItems_print {as : List α} (h : ∀ a ∈ as, Opens (print a) ∧ ReadsAs item (print a) a)
    (hb : (as.map print).length < bound) (rest : List Char) :
    readItems item bound true (commaSeparated (as.map print) ++ ']' :: rest) = .ok (as, rest) := by
  obtain ⟨left, rfl, hleft⟩ := exists_pred hb
  cases as with
  | nil => rfl
  | cons a as =>
    obtain ⟨⟨hopens, hreads⟩, h⟩ := List.forall_mem_cons.mp h
    rw [List.map_cons, commaSeparated_cons, List.append_assoc]
    simp only [readItems, nextItem_first hopens, hreads _ (stops_rest (stops_bracket rest) _),
      readItems_rest h hleft]

end Items

/-- A member: its name in quotes, a colon, and its value. -/
def printMember (name : String) (part : List Char) : List Char := printText name ++ ':' :: part

/-- The text of a member behind the opening quote of its name. -/
def afterQuote (name : String) (part : List Char) : List Char :=
  name.toList.flatMap escaped ++ '"' :: ':' :: part

theorem nextMember_first (name : String) (part rest : List Char) :
    nextMember true (printMember name part ++ rest)
      = .ok (true, afterQuote name (part ++ rest)) := by
  simp [printMember, printText, afterQuote, nextMember, skipBlank_quote]

theorem nextMember_comma (name : String) (part rest : List Char) :
    nextMember false (',' :: (printMember name part ++ rest))
      = .ok (true, afterQuote name (part ++ rest)) := by
  simp [printMember, printText, afterQuote, nextMember, skipBlank_quote, skipBlank_comma]

theorem readText_afterQuote (name : String) (part : List Char) :
    readText (afterQuote name part) = .ok (name.toList, ':' :: part) :=
  readText_flatMap_escaped name.toList _

theorem readColon_colon (cs : List Char) : readColon (':' :: cs) = .ok cs := rfl

section Members

variable {α : Type} {item : List Char → Step α} {print : α → List Char} {bound : Nat}

/-- The members behind the first one, each after its comma. -/
theorem readPairs_rest {ms : List (String × α)} (h : ∀ m ∈ ms, ReadsAs item (print m.2) m.2)
    (hb : (ms.map fun m => printMember m.1 (print m.2)).length < bound) (rest : List Char) :
    readPairs item bound false
        ((ms.map fun m => printMember m.1 (print m.2)).flatMap (',' :: ·) ++ '\x7d' :: rest)
      = .ok (ms, rest) := by
  induction ms generalizing bound with
  | nil =>
    obtain ⟨left, rfl, -⟩ := exists_pred hb
    rfl
  | cons m ms ih =>
    obtain ⟨hreads, h⟩ := List.forall_mem_cons.mp h
    obtain ⟨left, rfl, hleft⟩ := exists_pred hb
    rw [List.map_cons, List.flatMap_cons, List.append_assoc, List.cons_append]
    simp only [readPairs, nextMember_comma, readText_afterQuote, readColon_colon,
      hreads _ (stops_rest (stops_brace rest) _), ih h hleft, String.ofList_toList]

/-- The members of an object, up to its closing brace. -/
theorem readPairs_print {ms : List (String × α)} (h : ∀ m ∈ ms, ReadsAs item (print m.2) m.2)
    (hb : (ms.map fun m => printMember m.1 (print m.2)).length < bound) (rest : List Char) :
    readPairs item bound true
        (commaSeparated (ms.map fun m => printMember m.1 (print m.2)) ++ '\x7d' :: rest)
      = .ok (ms, rest) := by
  obtain ⟨left, rfl, hleft⟩ := exists_pred hb
  cases ms with
  | nil => rfl
  | cons m ms =>
    obtain ⟨hreads, h⟩ := List.forall_mem_cons.mp h
    rw [List.map_cons, commaSeparated_cons, List.append_assoc]
    simp only [readPairs, nextMember_first, readText_afterQuote, readColon_colon,
      hreads _ (stops_rest (stops_brace rest) _), readPairs_rest h hleft, String.ofList_toList]

end Members

/-! ### Any value -/

namespace Value

theorem printItems_eq (items : List Value) : printItems items = items.map print := by
  induction items with
  | nil => rfl
  | cons v items ih => rw [printItems, ih, List.map_cons]

theorem printMembers_eq (members : List (String × Value)) :
    printMembers members = members.map fun m => printMember m.1 m.2.print := by
  induction members with
  | nil => rfl
  | cons m members ih => rw [printMembers, ih, List.map_cons, printMember]

mutual

/-- All numbers in the value are whole and fit a word. -/
def Plain : Value → Prop
  | .number (.natural n) => n < Text.word64
  | .number _ => False
  | .list items => PlainItems items
  | .object members => PlainMembers members
  | _ => True

/-- The items are plain. -/
def PlainItems : List Value → Prop
  | [] => True
  | v :: items => v.Plain ∧ PlainItems items

/-- The values of the members are plain. -/
def PlainMembers : List (String × Value) → Prop
  | [] => True
  | m :: members => m.2.Plain ∧ PlainMembers members

/-- How many levels the value opens. -/
def height : Value → Nat
  | .list items => heightItems items + 1
  | .object members => heightMembers members + 1
  | _ => 0

/-- The height of the highest item. -/
def heightItems : List Value → Nat
  | [] => 0
  | v :: items => max v.height (heightItems items)

/-- The height of the highest value among the members. -/
def heightMembers : List (String × Value) → Nat
  | [] => 0
  | m :: members => max m.2.height (heightMembers members)

end

/-- A plain value starts with neither a blank nor a mark between values. -/
theorem opens_print {v : Value} (h : v.Plain) : Opens v.print := by
  cases v with
  | null => exact ⟨_, _, rfl, by decide⟩
  | bool b => cases b <;> exact ⟨_, _, rfl, by decide⟩
  | number n =>
    cases n with
    | natural n => exact opens_decimalDigits n
    | negative n => exact h.elim
    | real f => exact h.elim
  | text s => exact ⟨_, _, rfl, by decide⟩
  | list items => exact ⟨_, _, rfl, by decide⟩
  | object members => exact ⟨_, _, rfl, by decide⟩

/-- A value that starts with a digit is a number. -/
theorem read_digit {c : Char} (h : isDigit c = true) (depth : Nat) (cs : List Char) :
    Value.read (depth + 1) (c :: cs)
      = (readNumber false (c :: cs)).map fun r => (.number r.1, r.2) := by
  rw [Value.read, skipBlank_cons (isBlank_of_isDigit h)]
  split
  all_goals first
    | exact absurd (List.cons.inj ‹_›).1 (ne_of_isDigit h (by decide))
    | cases ‹_›
  rw [if_pos h]

mutual

/-- Reading a printed value gives it back, if its numbers are whole and the levels suffice. -/
theorem read_print : (v : Value) → v.Plain → ∀ depth, v.height < depth →
    ReadsAs (Value.read depth) v.print v
  | .null, _, depth + 1, _ => fun _ _ => rfl
  | .bool true, _, depth + 1, _ => fun _ _ => rfl
  | .bool false, _, depth + 1, _ => fun _ _ => rfl
  | .number (.natural n), hv, depth + 1, _ => fun rest hrest => by
    have hnumber := readNumber_natural hv hrest
    obtain ⟨d, ds, hdigits, hd, -⟩ := Text.head_decimalDigits n
    rw [print, Number.print]
    rw [hdigits, List.cons_append] at hnumber ⊢
    rw [read_digit hd, hnumber]
    rfl
  | .text s, _, depth + 1, _ => fun rest _ => by
    show (readText (s.toList.flatMap escaped ++ ['"'] ++ rest)).map _ = _
    rw [List.append_assoc, List.singleton_append, readText_flatMap_escaped]
    show Except.ok (text (String.ofList s.toList), rest) = _
    rw [String.ofList_toList]
  | .list items, hv, depth + 1, hdepth => fun rest _ => by
    have hlow : heightItems items < depth := Nat.lt_of_succ_lt_succ hdepth
    have hitems := readsAs_items items hv depth hlow
    rw [print, printItems_eq, List.cons_append, List.append_assoc, List.singleton_append]
    show (if depth = 0 then _ else (readItems (Value.read depth) _ true _).map _) = _
    rw [if_neg (Nat.ne_of_gt (Nat.zero_lt_of_lt hlow)),
      readItems_print hitems (length_lt_of_commaSeparated _ _ _)]
    rfl
  | .object members, hv, depth + 1, hdepth => fun rest _ => by
    have hlow : heightMembers members < depth := Nat.lt_of_succ_lt_succ hdepth
    have hmembers := readsAs_members members hv depth hlow
    rw [print, printMembers_eq, List.cons_append, List.append_assoc, List.singleton_append]
    show (if depth = 0 then _ else (readPairs (Value.read depth) _ true _).map _) = _
    rw [if_neg (Nat.ne_of_gt (Nat.zero_lt_of_lt hlow)),
      readPairs_print hmembers (length_lt_of_commaSeparated _ _ _)]
    rfl

theorem readsAs_items : (items : List Value) → PlainItems items → ∀ depth,
    heightItems items < depth →
    ∀ v ∈ items, Opens v.print ∧ ReadsAs (Value.read depth) v.print v
  | [], _, _, _ => fun _ h => absurd h List.not_mem_nil
  | v :: items, hplain, depth, hdepth => fun w hw => by
    obtain ⟨hv, hitems⟩ := Nat.max_lt.mp hdepth
    rcases List.mem_cons.mp hw with hw | hw
    · rw [hw]
      exact ⟨opens_print hplain.1, read_print v hplain.1 depth hv⟩
    · exact readsAs_items items hplain.2 depth hitems w hw

theorem readsAs_members : (members : List (String × Value)) → PlainMembers members → ∀ depth,
    heightMembers members < depth →
    ∀ m ∈ members, ReadsAs (Value.read depth) m.2.print m.2
  | [], _, _, _ => fun _ h => absurd h List.not_mem_nil
  | m :: members, hplain, depth, hdepth => fun other hother => by
    obtain ⟨hm, hmembers⟩ := Nat.max_lt.mp hdepth
    rcases List.mem_cons.mp hother with hother | hother
    · rw [hother]
      exact read_print m.2 hplain.1 depth hm
    · exact readsAs_members members hplain.2 depth hmembers other hother

end

end Value

/-- What reads a printed value reads its whole text. -/
theorem readAll_toText {α : Type} {reader : Reader α} {v : Value} {a : α}
    (h : ReadsAs (reader fullDepth) v.print a) : readAll reader v.toText = .ok a := by
  have hread := h [] stops_nil
  rw [List.append_nil] at hread
  rw [readAll, Value.toText, String.toList_ofList, hread]
  rfl

/-- The text of a value is read back. -/
theorem Value.ofText_toText {v : Value} (hv : v.Plain) (hheight : v.height < fullDepth) :
    ofText v.toText = .ok v :=
  readAll_toText (read_print v hv fullDepth hheight)

end Json

end Autosampler

import Autosampler.Magazine
import Autosampler.Program
import Mathlib.Data.List.Induction
import Mathlib.Data.Nat.Digits.Defs

/-!
# Numerals are unambiguous

The decimal digits of a number can be read back, so a slot can be told from the file name that is
made from its number.  What is read as a number is more than what is written: a plus sign and zeros
may stand in front.

* `Text.digitsValue_decimalDigits` — the value of the digits of a number;
* `Text.head_decimalDigits`, `Text.isDigit_of_mem_decimalDigits` — what these digits look like;
* `Text.Numeral`, `Text.readWord?_eq_some_iff` — the texts that are read as a number;
* `Text.Numeral.plain_iff` — only one of them is what is written for the number;
* `Text.decimal_injective`, `placeholder_injective`, `Program.mount_fileName_injective` —
  different numbers have different texts.
-/

namespace Autosampler

namespace Text

theorem digitValue_digitChar {n : Nat} (h : n < 10) : digitValue (digitChar n) = n := by
  have hall : ∀ m : Fin 10, digitValue (digitChar m.val) = m.val := by decide
  exact hall ⟨n, h⟩

theorem digitsValue_append_singleton (base : Nat) (cs : List Char) (c : Char) :
    digitsValue base (cs ++ [c]) = digitsValue base cs * base + digitValue c := by
  unfold digitsValue
  rw [List.foldl_append]
  rfl

/-- The digits of a number have its value. -/
theorem digitsValue_decimalDigits (n : Nat) : digitsValue 10 (decimalDigits n) = n := by
  fun_induction decimalDigits n with
  | case1 n hlt =>
    show 0 * 10 + digitValue (digitChar n) = n
    rw [digitValue_digitChar hlt, Nat.zero_mul, Nat.zero_add]
  | case2 n hge ih =>
    rw [digitsValue_append_singleton, ih, digitValue_digitChar (Nat.mod_lt n (by decide))]
    omega

theorem decimal_injective {m n : Nat} (h : decimal m = decimal n) : m = n := by
  have hdigits : decimalDigits m = decimalDigits n := String.ofList_injective h
  rw [← digitsValue_decimalDigits m, hdigits, digitsValue_decimalDigits]

theorem isDigit_digitChar {n : Nat} (h : n < 10) : isDigit (digitChar n) = true := by
  have hall : ∀ m : Fin 10, isDigit (digitChar m.val) = true := by decide
  exact hall ⟨n, h⟩

theorem isDigit_of_mem_decimalDigits {n : Nat} {c : Char} (h : c ∈ decimalDigits n) :
    isDigit c = true := by
  fun_induction decimalDigits n with
  | case1 n hlt =>
    rw [List.mem_singleton.mp h]
    exact isDigit_digitChar hlt
  | case2 n hge ih =>
    rcases List.mem_append.mp h with h | h
    · exact ih h
    · rw [List.mem_singleton.mp h]
      exact isDigit_digitChar (Nat.mod_lt n (by decide))

/-- A number starts with a digit, and only zero starts with a zero. -/
theorem head_decimalDigits (n : Nat) :
    ∃ d ds, decimalDigits n = d :: ds ∧ isDigit d = true ∧ (d = '0' → n = 0) := by
  fun_induction decimalDigits n with
  | case1 n hlt =>
    have hall : ∀ m : Fin 10, digitChar m.val = '0' → m.val = 0 := by decide
    exact ⟨_, _, rfl, isDigit_digitChar hlt, hall ⟨n, hlt⟩⟩
  | case2 n hge ih =>
    obtain ⟨d, ds, hdigits, hd, hzero⟩ := ih
    exact ⟨d, ds ++ [digitChar (n % 10)], by rw [hdigits, List.cons_append], hd, fun h => by
      have := hzero h
      omega⟩

theorem decimalDigits_ne_nil (n : Nat) : decimalDigits n ≠ [] := by
  obtain ⟨d, ds, hdigits, -⟩ := head_decimalDigits n
  rw [hdigits]
  exact List.cons_ne_nil d ds

theorem decimalDigits_zero : decimalDigits 0 = ['0'] := by
  rw [decimalDigits]
  rfl

/-- No number is written with a zero in front. -/
theorem decimalDigits_ne_zero_cons (n : Nat) {d : Char} {ds : List Char} :
    decimalDigits n ≠ '0' :: d :: ds := by
  intro h
  obtain ⟨first, rest, hdigits, -, hzero⟩ := head_decimalDigits n
  rw [h] at hdigits
  rw [hzero (List.cons.inj hdigits).1.symm, decimalDigits] at h
  cases h

/-! ### What is read as a number -/

/-- The number that digits stand for, the last one counting the units. -/
def positional (digits : List Char) : Nat :=
  Nat.ofDigits 10 (digits.reverse.map fun c => c.toNat - '0'.toNat)

/-- A decimal numeral: at least one digit, and a plus sign in front of them if one likes. -/
inductive Numeral : List Char → Nat → Prop
  | unsigned {digits : List Char} (nonempty : digits ≠ [])
      (decimal : ∀ c ∈ digits, isDigit c = true) : Numeral digits (positional digits)
  | signed {digits : List Char} (nonempty : digits ≠ [])
      (decimal : ∀ c ∈ digits, isDigit c = true) : Numeral ('+' :: digits) (positional digits)

variable {cs digits : List Char} {c : Char} {n : Nat}

theorem isDigit_iff : isDigit c = true ↔ 48 ≤ c.toNat ∧ c.toNat ≤ 57 := by
  rw [isDigit, Bool.and_eq_true, decide_eq_true_eq, decide_eq_true_eq]
  exact Iff.rfl

theorem digitValue_of_isDigit (h : isDigit c = true) : digitValue c = c.toNat - '0'.toNat := by
  rw [isDigit, Bool.and_eq_true, decide_eq_true_eq, decide_eq_true_eq] at h
  exact if_pos h

theorem isDigitOf_ten (c : Char) : isDigitOf 10 c = isDigit c := by
  by_cases h : isDigit c = true
  · rw [isDigitOf, digitValue_of_isDigit h, h, decide_eq_true_eq]
    have hle := (isDigit_iff.mp h).2
    have hzero : '0'.toNat = 48 := rfl
    omega
  · have hnot : ¬('0' ≤ c ∧ c ≤ '9') := by simpa [isDigit] using h
    rw [Bool.not_eq_true] at h
    rw [h, isDigitOf, decide_eq_false_iff_not, digitValue, if_neg hnot]
    -- a letter is worth ten at least, and what is neither is worth thirty-six
    split_ifs with hsmall hlarge
    · have hle : 97 ≤ c.toNat := hsmall.1
      omega
    · have hle : 65 ≤ c.toNat := hlarge.1
      omega
    · omega

theorem positional_append_singleton (digits : List Char) (c : Char) :
    positional (digits ++ [c]) = positional digits * 10 + (c.toNat - '0'.toNat) := by
  rw [positional, List.reverse_append, List.reverse_singleton, List.singleton_append, List.map_cons,
    Nat.ofDigits_cons, ← positional]
  omega

theorem digitsValue_eq_positional (h : ∀ c ∈ digits, isDigit c = true) :
    digitsValue 10 digits = positional digits := by
  induction digits using List.reverseRecOn with
  | nil => rfl
  | append_singleton digits c ih =>
    have hfront : ∀ d ∈ digits, isDigit d = true := fun d hd => h d (List.mem_append_left _ hd)
    have hlast : isDigit c = true := h c (List.mem_append_right _ (List.mem_singleton_self c))
    rw [digitsValue_append_singleton, positional_append_singleton, ih hfront,
      digitValue_of_isDigit hlast]

theorem digitsValue?_eq_some_iff :
    digitsValue? 10 cs = some n ↔
      cs ≠ [] ∧ (∀ c ∈ cs, isDigit c = true) ∧ positional cs = n := by
  unfold digitsValue?
  simp only [isDigitOf_ten, Option.ite_none_right_eq_some, Bool.and_eq_true, Bool.not_eq_true',
    List.isEmpty_eq_false_iff, List.all_eq_true, Option.some.injEq, and_assoc, ne_eq]
  refine and_congr_right fun _ => and_congr_right fun h => ?_
  rw [digitsValue_eq_positional h]

/-- Exactly the numerals are read, each as its number. -/
theorem readNat?_eq_some_iff : readNat? cs = some n ↔ Numeral cs n := by
  constructor
  · intro h
    unfold readNat? at h
    split at h
    · obtain ⟨hne, hdigits, rfl⟩ := digitsValue?_eq_some_iff.mp h
      exact .signed hne hdigits
    · obtain ⟨hne, hdigits, rfl⟩ := digitsValue?_eq_some_iff.mp h
      exact .unsigned hne hdigits
  · intro h
    cases h with
    | signed nonempty decimal => exact digitsValue?_eq_some_iff.mpr ⟨nonempty, decimal, rfl⟩
    | unsigned nonempty decimal =>
      have hplus : ∀ rest, cs ≠ '+' :: rest := by
        rintro rest rfl
        exact absurd (decimal '+' List.mem_cons_self) (by decide)
      rw [readNat?.eq_2 _ hplus]
      exact digitsValue?_eq_some_iff.mpr ⟨nonempty, decimal, rfl⟩

/-- A numeral is made of digits and a plus sign. -/
theorem Numeral.of_mem (h : Numeral cs n) (hc : c ∈ cs) : c = '+' ∨ isDigit c = true := by
  cases h with
  | unsigned _ decimal => exact Or.inr (decimal c hc)
  | signed _ decimal => exact (List.mem_cons.mp hc).imp_right (decimal c)

theorem Numeral.head (h : Numeral cs n) :
    ∃ c rest, cs = c :: rest ∧ (c = '+' ∨ isDigit c = true) := by
  have hne : cs ≠ [] := by
    cases h with
    | unsigned nonempty _ => exact nonempty
    | signed _ _ => exact List.cons_ne_nil _ _
  obtain ⟨c, rest, rfl⟩ := List.exists_cons_of_ne_nil hne
  exact ⟨c, rest, rfl, h.of_mem List.mem_cons_self⟩

theorem Numeral.value_unique {m : Nat} (hm : Numeral cs m) (hn : Numeral cs n) : m = n :=
  Option.some.inj ((readNat?_eq_some_iff.mpr hm).symm.trans (readNat?_eq_some_iff.mpr hn))

theorem readWord?_eq_some_iff {bound : Nat} :
    readWord? bound cs = some n ↔ Numeral cs n ∧ n < bound := by
  rw [readWord?, Option.filter_eq_some_iff, readNat?_eq_some_iff, decide_eq_true_eq]

/-! ### What is written for a number -/

/-- There is neither a sign nor a zero in front. -/
def Plain (numeral : List Char) : Prop :=
  numeral = ['0'] ∨ numeral.head? ≠ some '+' ∧ numeral.head? ≠ some '0'

theorem numeral_decimalDigits (n : Nat) : Numeral (decimalDigits n) n := by
  have hdigits : ∀ c ∈ decimalDigits n, isDigit c = true := fun _ => isDigit_of_mem_decimalDigits
  have hnumeral := Numeral.unsigned (decimalDigits_ne_nil n) hdigits
  rwa [← digitsValue_eq_positional hdigits, digitsValue_decimalDigits] at hnumeral

theorem digitChar_sub (h : isDigit c = true) : digitChar (c.toNat - '0'.toNat) = c := by
  have hge := (isDigit_iff.mp h).1
  have hsum : 48 + (c.toNat - '0'.toNat) = c.toNat := Nat.add_sub_cancel' hge
  rw [digitChar, hsum, Char.ofNat_toNat]

/-- Digits without a zero in front are what is written for their number. -/
theorem decimalDigits_positional (hne : digits ≠ []) (hdigits : ∀ c ∈ digits, isDigit c = true)
    (hzero : digits = ['0'] ∨ digits.head? ≠ some '0') :
    decimalDigits (positional digits) = digits := by
  induction digits using List.reverseRecOn with
  | nil => exact absurd rfl hne
  | append_singleton digits c ih =>
    have hlast : isDigit c = true :=
      hdigits c (List.mem_append_right _ (List.mem_singleton_self c))
    have hlt : c.toNat - '0'.toNat < 10 := by
      have hle := (isDigit_iff.mp hlast).2
      have hbase : '0'.toNat = 48 := rfl
      omega
    rw [positional_append_singleton]
    cases digits with
    | nil =>
      show decimalDigits (0 * 10 + _) = [c]
      rw [Nat.zero_mul, Nat.zero_add, decimalDigits, if_pos hlt, digitChar_sub hlast]
    | cons first rest =>
      have hfront : first ≠ '0' := by
        rcases hzero with h | h
        · simp at h
        · simpa using h
      have hrest : decimalDigits (positional (first :: rest)) = first :: rest :=
        ih (List.cons_ne_nil _ _) (fun d hd => hdigits d (List.mem_append_left _ hd))
          (Or.inr (by simpa using hfront))
      have hpos : positional (first :: rest) ≠ 0 := by
        intro h
        rw [h, decimalDigits_zero] at hrest
        exact hfront (List.cons.inj hrest).1.symm
      have hdiv : (positional (first :: rest) * 10 + (c.toNat - '0'.toNat)) / 10
          = positional (first :: rest) := by omega
      have hmod : (positional (first :: rest) * 10 + (c.toNat - '0'.toNat)) % 10
          = c.toNat - '0'.toNat := by omega
      rw [decimalDigits, if_neg (by omega), hdiv, hmod, hrest, digitChar_sub hlast]

/-- Of the numerals for a number, one has neither a sign nor a zero in front. -/
theorem Numeral.plain_iff (h : Numeral cs n) : Plain cs ↔ cs = decimalDigits n := by
  constructor
  · intro hplain
    cases h with
    | signed nonempty decimal => rcases hplain with h | h <;> simp at h
    | unsigned nonempty decimal =>
      exact (decimalDigits_positional nonempty decimal (hplain.imp_right And.right)).symm
  · rintro rfl
    obtain ⟨d, ds, hdigits, hd, hzero⟩ := head_decimalDigits n
    by_cases hn : n = 0
    · exact Or.inl (by rw [hn, decimalDigits_zero])
    · rw [hdigits]
      refine Or.inr ⟨fun hplus => ?_, fun hd0 => hn (hzero (Option.some.inj hd0))⟩
      rw [Option.some.inj hplus] at hd
      cases hd

end Text

theorem placeholder_injective {m n : Nat} (h : placeholder m = placeholder n) : m = n := by
  have hlists := congrArg String.toList h
  rw [placeholder, placeholder, String.toList_append, String.toList_append] at hlists
  exact Text.decimal_injective (String.toList_inj.mp (List.append_cancel_left hlists))

theorem placeholder_head (slot : Nat) : (placeholder slot).toList.head? = some '@' := by
  rw [placeholder, String.toList_append]
  rfl

theorem ne_placeholder_of_head {id : String} (h : id.toList.head? ≠ some '@') (slot : Nat) :
    id ≠ placeholder slot := by
  rintro rfl
  exact h (placeholder_head slot)

/-- No placeholder is the empty text. -/
theorem placeholder_ne_empty (slot : Nat) : placeholder slot ≠ "" :=
  (ne_placeholder_of_head (by decide) slot).symm

namespace Program

/-- A mount program tells its slot. -/
theorem mount_fileName_injective {m n : Nat} (h : (mount m).fileName = (mount n).fileName) :
    m = n := by
  have hlists := congrArg String.toList h
  simp only [fileName, String.toList_append, List.append_assoc] at hlists
  have hdigits := List.append_cancel_right (List.append_cancel_left hlists)
  exact Text.decimal_injective (String.toList_inj.mp hdigits)

end Program

end Autosampler

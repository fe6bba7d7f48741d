import Autosampler.Json.Printer
import Mathlib.Tactic.SplitIfs

/-!
# Printed values fill one line

A value is printed without control characters, whatever texts it holds.  So it fits on a line, and
every newline on a connection ends a value.

* `Text.Printable` — a text without the control characters that JSON has to escape;
* `Text.printable_decimalDigits`, `Decimal.printable_realText` — numbers;
* `Json.printable_escaped`, `Json.printable_printText` — texts in quotes;
* `Json.Value.printable_print`, `Json.Value.newline_not_mem_print` — values.
-/

namespace Autosampler

/-! ### Printable texts -/

namespace Text

/-- No character comes before the blank. -/
def Printable (cs : List Char) : Prop := ∀ c ∈ cs, 0x20 ≤ c.toNat

instance (cs : List Char) : Decidable (Printable cs) :=
  List.decidableBAll (fun c : Char => 0x20 ≤ c.toNat) cs

namespace Printable

variable {c : Char} {cs ds : List Char}

theorem nil : Printable [] := fun _ h => absurd h List.not_mem_nil

theorem cons (hc : 0x20 ≤ c.toNat) (h : Printable cs) : Printable (c :: cs) := by
  intro d hd
  rcases List.mem_cons.mp hd with rfl | hd
  · exact hc
  · exact h d hd

theorem append (hcs : Printable cs) (hds : Printable ds) : Printable (cs ++ ds) := by
  intro c hc
  rcases List.mem_append.mp hc with h | h
  · exact hcs c h
  · exact hds c h

theorem ofList (h : Printable cs) : Printable (String.ofList cs).toList := by
  rw [String.toList_ofList]
  exact h

theorem append_text {s t : String} (hs : Printable s.toList) (ht : Printable t.toList) :
    Printable (s ++ t).toList := by
  rw [String.toList_append]
  exact hs.append ht

theorem of_subset (h : Printable ds) (hsub : cs ⊆ ds) : Printable cs := fun c hc => h c (hsub hc)

theorem replicate (n : Nat) (hc : 0x20 ≤ c.toNat) : Printable (List.replicate n c) := by
  intro d hd
  rw [List.eq_of_mem_replicate hd]
  exact hc

theorem newline_not_mem (h : Printable cs) : '\n' ∉ cs := fun hmem => by
  have := h _ hmem
  exact absurd this (by decide)

end Printable

/-! ### Numbers -/

theorem digitChar_printable {n : Nat} (h : n < 10) : 0x20 ≤ (digitChar n).toNat := by
  have hall : ∀ m : Fin 10, 0x20 ≤ (digitChar m.val).toNat := by decide
  exact hall ⟨n, h⟩

theorem printable_decimalDigits (n : Nat) : Printable (decimalDigits n) := by
  fun_induction decimalDigits n with
  | case1 n hlt => exact Printable.nil.cons (digitChar_printable hlt)
  | case2 n hge ih =>
    exact ih.append (Printable.nil.cons (digitChar_printable (Nat.mod_lt n (by decide))))

theorem printable_decimal (n : Nat) : Printable (decimal n).toList :=
  (printable_decimalDigits n).ofList

end Text

open Text (Printable)

namespace Decimal

theorem printable_dropZeros {ds : List Char} (h : Printable ds) : Printable (dropZeros ds) := by
  refine h.of_subset fun c hc => ?_
  rw [dropZeros, List.mem_reverse] at hc
  exact List.mem_reverse.mp (List.dropWhile_subset _ hc)

theorem printable_exponentText (e : Int) : Printable (exponentText e).toList := by
  refine Printable.append_text ?_ (Text.printable_decimal _)
  split <;> decide

theorem printable_layout (d : Numeral) : Printable (layout d).toList := by
  have hraw := printable_dropZeros (Text.printable_decimalDigits d.digits)
  unfold layout
  dsimp only
  generalize dropZeros (Text.decimalDigits d.digits) = ds at hraw ⊢
  split
  · split
    · have hzeros := Printable.replicate (c := '0') (-(d.exponent
        + (Text.decimalDigits d.digits).length - 1) - 1).toNat (by decide)
      exact Printable.append_text (by decide) (hzeros.append hraw).ofList
    · refine Printable.append_text (Printable.append_text (Printable.ofList ?_) (by decide)) ?_
      · exact (hraw.of_subset (List.take_subset _ ds)).append
          (Printable.replicate _ (by decide))
      · split
        · decide
        · exact (hraw.of_subset (List.drop_subset _ ds)).ofList
  · split
    · decide
    · exact hraw.ofList.append_text (printable_exponentText _)
    · rename_i c rest _
      have hpointed : Printable (c :: '.' :: rest) :=
        ((hraw.of_subset (List.subset_cons_self c rest)).cons (by decide)).cons
          (hraw c List.mem_cons_self)
      exact hpointed.ofList.append_text (printable_exponentText _)

theorem printable_realText (f : Float) : Printable (realText f).toList := by
  have hsign : Printable (if f.toBits.toNat / Nat.pow 2 63 = 1 then "-" else "").toList := by
    split <;> decide
  unfold realText
  dsimp only
  generalize (if f.toBits.toNat / Nat.pow 2 63 = 1 then "-" else "") = sign at hsign ⊢
  split_ifs
  · exact hsign.append_text (by decide)
  · exact hsign.append_text (printable_layout _)
  · exact hsign.append_text (printable_layout _)

end Decimal

namespace Json

theorem printable_number (n : Number) : Printable n.print := by
  cases n with
  | natural n => exact Text.printable_decimalDigits n
  | negative n => exact (Text.printable_decimalDigits n).cons (by decide)
  | real f => exact Decimal.printable_realText f

/-! ### Texts in quotes -/

theorem printable_escapedControl {n : Nat} (h : n < 0x20) : Printable (escapedControl n) := by
  have hall : ∀ m : Fin 0x20, Printable (escapedControl m.val) := by decide
  exact hall ⟨n, h⟩

theorem printable_escaped (c : Char) : Printable (escaped c) := by
  unfold escaped
  split_ifs
  any_goals decide
  · exact printable_escapedControl ‹_›
  · exact Printable.nil.cons (by omega)

theorem printable_printText (s : String) : Printable (printText s) := by
  have hinside : Printable (s.toList.flatMap escaped) := by
    intro c hc
    obtain ⟨d, -, hmem⟩ := List.mem_flatMap.mp hc
    exact printable_escaped d c hmem
  exact (hinside.append (by decide)).cons (by decide)

/-! ### Values -/

theorem printable_commaSeparated {parts : List (List Char)} (h : ∀ part ∈ parts, Printable part) :
    Printable (commaSeparated parts) := by
  induction parts with
  | nil => exact Printable.nil
  | cons part parts ih =>
    have hpart := h part List.mem_cons_self
    have hparts := ih fun other hother => h other (List.mem_cons_of_mem part hother)
    cases parts with
    | nil => exact hpart
    | cons other parts => exact hpart.append (hparts.cons (by decide))

namespace Value

mutual

/-- A printed value has no control characters. -/
theorem printable_print : (v : Value) → Printable v.print
  | .null => by decide
  | .bool true => by decide
  | .bool false => by decide
  | .number n => printable_number n
  | .text s => printable_printText s
  | .list items =>
    ((printable_commaSeparated (printable_printItems items)).append (by decide)).cons (by decide)
  | .object members =>
    ((printable_commaSeparated (printable_printMembers members)).append (by decide)).cons
      (by decide)

theorem printable_printItems : (items : List Value) → ∀ part ∈ printItems items, Printable part
  | [] => fun _ h => absurd h List.not_mem_nil
  | v :: items => fun part h => by
    rcases List.mem_cons.mp h with rfl | h
    · exact printable_print v
    · exact printable_printItems items part h

theorem printable_printMembers :
    (members : List (String × Value)) → ∀ part ∈ printMembers members, Printable part
  | [] => fun _ h => absurd h List.not_mem_nil
  | (name, v) :: members => fun part h => by
    rcases List.mem_cons.mp h with rfl | h
    · exact (printable_printText name).append ((printable_print v).cons (by decide))
    · exact printable_printMembers members part h

end

/-- A printed value is one line. -/
theorem newline_not_mem_print (v : Value) : '\n' ∉ v.print := v.printable_print.newline_not_mem

end Value

end Json

end Autosampler

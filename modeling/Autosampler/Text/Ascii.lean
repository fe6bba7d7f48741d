/-!
# ASCII letters

Keywords and names are compared on their ASCII letters: every other character keeps its own
identity, so that `ſ` is not an `s` and `K` (the Kelvin sign) is not a `k`.

* `lower` — the letters `A` to `Z` made small, all else kept;
* `sameLetters` — equality up to `lower`;
* `plainName`, `plainName_plainName` — the small ASCII letters and digits of a name, in order.
-/

namespace Autosampler.Text

/-- The small form of an ASCII letter; any other character is kept. -/
def lower (c : Char) : Char :=
  if 'A' ≤ c ∧ c ≤ 'Z' then Char.ofNat (c.toNat + 32) else c

/-- Equality of two texts up to the case of ASCII letters. -/
def sameLetters (a b : List Char) : Bool := a.map lower == b.map lower

/-- An ASCII letter or digit. -/
def isAlphanumeric (c : Char) : Bool :=
  ('a' ≤ c && c ≤ 'z') || ('A' ≤ c && c ≤ 'Z') || ('0' ≤ c && c ≤ '9')

/-- A name reduced to its small ASCII letters and digits, so that punctuation, blanks and case
do not tell two names apart. -/
def plainName (s : String) : String :=
  String.ofList ((s.toList.map lower).filter isAlphanumeric)

/-! ### Small letters stay small -/

theorem toNat_ofNat {n : Nat} (h : n.isValidChar) : (Char.ofNat n).toNat = n := by
  rw [Char.ofNat, dif_pos h]
  rfl

theorem lower_lower (c : Char) : lower (lower c) = lower c := by
  by_cases h : 'A' ≤ c ∧ c ≤ 'Z'
  · have hc : 65 ≤ c.toNat ∧ c.toNat ≤ 90 := h
    rw [lower, lower, if_pos h, if_neg]
    rintro ⟨-, hle⟩
    have hnat : (Char.ofNat (c.toNat + 32)).toNat ≤ 90 := hle
    rw [toNat_ofNat (Or.inl (by omega))] at hnat
    omega
  · have hkept : lower c = c := if_neg h
    rw [hkept, hkept]

/-- A plain name is its own plain form. -/
theorem plainName_plainName (s : String) : plainName (plainName s) = plainName s := by
  have hkept : ((s.toList.map lower).filter isAlphanumeric).map lower
      = (s.toList.map lower).filter isAlphanumeric := by
    rw [List.map_congr_left (g := id), List.map_id]
    intro c hc
    obtain ⟨d, -, rfl⟩ := List.mem_map.mp (List.mem_filter.mp hc).1
    exact lower_lower d
  rw [plainName, plainName, String.toList_ofList, hkept, List.filter_filter]
  simp only [Bool.and_self]

end Autosampler.Text

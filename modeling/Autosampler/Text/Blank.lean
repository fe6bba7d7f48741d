/-!
# Blank and control characters

White space in robot lines, tokens and settings is the Unicode property `White_Space`, and
trimming removes it from both ends of a text.

* `isBlank` — the property, as a table of its twenty-five characters;
* `isControl` — the general category `Cc`;
* `trimStart`, `trimEnd`, `trim` — removal of blanks at the ends;
* `allBlank` — a text without any other character;
* `IsTrimmed`, `trim_eq_iff` — texts without blanks at the ends, and what trimming leaves.
-/

namespace Autosampler.Text

/-! ### The classes -/

/-- White space: the characters of the Unicode property `White_Space`. -/
def isBlank (c : Char) : Bool :=
  let n := c.toNat
  (9 ≤ n && n ≤ 13) || n == 0x20 || n == 0x85 || n == 0xA0 || n == 0x1680
    || (0x2000 ≤ n && n ≤ 0x200A) || n == 0x2028 || n == 0x2029 || n == 0x202F
    || n == 0x205F || n == 0x3000

/-- Control characters: the two blocks C0 (with DEL) and C1. -/
def isControl (c : Char) : Bool :=
  c.toNat < 0x20 || (0x7F ≤ c.toNat && c.toNat ≤ 0x9F)

/-! ### Trimming -/

/-- Drop the blanks at the start. -/
def trimStart (cs : List Char) : List Char := cs.dropWhile isBlank

/-- Drop the blanks at the end. -/
def trimEnd (cs : List Char) : List Char := (cs.reverse.dropWhile isBlank).reverse

/-- Drop the blanks at both ends. -/
def trim (cs : List Char) : List Char := trimEnd (trimStart cs)

/-- The text of `s` without the blanks at its ends. -/
def trimmed (s : String) : String := String.ofList (trim s.toList)

/-- A text that is empty or holds blanks only. -/
def allBlank (s : String) : Bool := s.toList.all isBlank

/-- Trimming leaves nothing of blanks. -/
theorem trim_of_allBlank {s : String} (h : allBlank s = true) : trim s.toList = [] := by
  have hstart : trimStart s.toList = [] := by
    rw [trimStart, ← List.append_nil s.toList,
      List.dropWhile_append_of_pos (List.all_eq_true.mp h), List.dropWhile_nil]
  rw [trim, hstart]
  rfl

/-! ### What trimming leaves -/

/-- There is no blank at the ends. -/
structure IsTrimmed (cs : List Char) : Prop where
  head : ∀ c, cs.head? = some c → isBlank c = false
  last : ∀ c, cs.getLast? = some c → isBlank c = false

variable {cs t : List Char}

theorem isTrimmed_of_solid (h : ∀ c ∈ cs, isBlank c = false) : IsTrimmed cs where
  head c hc := h c (List.mem_of_head? hc)
  last c hc := h c (List.mem_of_getLast? hc)

theorem head_trimStart {c : Char} (h : (trimStart cs).head? = some c) : isBlank c = false := by
  have hhead := List.head?_dropWhile_not isBlank cs
  rw [← trimStart, h] at hhead
  simpa using hhead

/-- What is dropped at the start is blank. -/
theorem exists_trimStart (cs : List Char) :
    ∃ before, cs = before ++ trimStart cs ∧ ∀ c ∈ before, isBlank c = true :=
  ⟨cs.takeWhile isBlank, List.takeWhile_append_dropWhile.symm,
    fun _ hc => List.all_eq_true.mp List.all_takeWhile _ hc⟩

/-- What is dropped at the end is blank. -/
theorem exists_trimEnd (cs : List Char) :
    ∃ after, cs = trimEnd cs ++ after ∧ ∀ c ∈ after, isBlank c = true := by
  obtain ⟨before, hcs, hblank⟩ := exists_trimStart cs.reverse
  refine ⟨before.reverse, ?_, fun c hc => hblank c (List.mem_reverse.mp hc)⟩
  rw [trimEnd, ← trimStart, ← List.reverse_append, ← hcs, List.reverse_reverse]

theorem trimStart_append (hblank : ∀ c ∈ cs, isBlank c = true) :
    trimStart (cs ++ t) = trimStart t := List.dropWhile_append_of_pos hblank

theorem trimStart_of_head (h : ∀ c, cs.head? = some c → isBlank c = false) :
    trimStart cs = cs := by
  cases cs with
  | nil => rfl
  | cons c cs => exact List.dropWhile_cons_of_neg (by rw [h c rfl]; exact Bool.false_ne_true)

theorem trimEnd_append (hblank : ∀ c ∈ t, isBlank c = true) :
    trimEnd (cs ++ t) = trimEnd cs := by
  have hrev : ∀ c ∈ t.reverse, isBlank c = true := fun c hc => hblank c (List.mem_reverse.mp hc)
  rw [trimEnd, List.reverse_append, List.dropWhile_append_of_pos hrev, trimEnd]

theorem trimEnd_of_last (h : ∀ c, cs.getLast? = some c → isBlank c = false) :
    trimEnd cs = cs := by
  have hrev : trimStart cs.reverse = cs.reverse :=
    trimStart_of_head fun c hc => h c (by rwa [List.head?_reverse] at hc)
  rw [trimEnd, ← trimStart, hrev, List.reverse_reverse]

/-- A text is its trimmed form between blanks. -/
theorem trim_eq_iff :
    trim cs = t ↔ IsTrimmed t ∧ ∃ before after, cs = before ++ (t ++ after) ∧
      (∀ c ∈ before, isBlank c = true) ∧ ∀ c ∈ after, isBlank c = true := by
  constructor
  · rintro rfl
    obtain ⟨before, hbefore, hblank⟩ := exists_trimStart cs
    obtain ⟨after, hafter, hblank'⟩ := exists_trimEnd (trimStart cs)
    refine ⟨⟨fun c hc => ?_, fun c hc => ?_⟩, before, after, ?_, hblank, hblank'⟩
    · have hfirst : (trimStart cs).head? = some c := by
        rw [hafter, List.head?_append, ← trim, hc]
        rfl
      exact head_trimStart hfirst
    · have hlast : (trimStart (trimStart cs).reverse).head? = some c := by
        rwa [trim, trimEnd, List.getLast?_reverse] at hc
      exact head_trimStart hlast
    · rw [trim, ← hafter, ← hbefore]
  · rintro ⟨⟨hhead, hlast⟩, before, after, rfl, hbefore, hafter⟩
    rw [trim, trimStart_append hbefore]
    cases t with
    | nil =>
      rw [List.nil_append, ← List.append_nil after, trimStart_append hafter]
      rfl
    | cons first rest =>
      have hstart : trimStart (first :: rest ++ after) = first :: rest ++ after :=
        trimStart_of_head fun c hc => hhead c hc
      rw [hstart, trimEnd_append hafter, trimEnd_of_last hlast]

theorem isTrimmed_trim (cs : List Char) : IsTrimmed (trim cs) := (trim_eq_iff.mp rfl).1

theorem trim_of_isTrimmed (h : IsTrimmed cs) : trim cs = cs :=
  trim_eq_iff.mpr ⟨h, [], [], (List.append_nil cs).symm, nofun, nofun⟩

theorem trim_trim (cs : List Char) : trim (trim cs) = trim cs :=
  trim_of_isTrimmed (isTrimmed_trim cs)

theorem trim_trimmed (s : String) : trim (trimmed s).toList = trim s.toList := by
  rw [trimmed, String.toList_ofList, trim_trim]

end Autosampler.Text

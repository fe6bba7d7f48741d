import Autosampler.Proofs.Numerals
import Autosampler.Proofs.Run
import Mathlib.Data.List.Nodup

/-!
# File names of programs

The changer's own programs are found by their file names: what they do, the slot's number, and the
ending of program files.  The number may be any numeral, so each of them has many names, of which it
is written under one.  A free program has the name that an operator gave it, and nothing keeps an
operator from giving it one of these.

* `Program.Own`, `Program.Names` — the changer's own programs, and all their names;
* `Program.CleanName` — the names of program files;
* `Program.ofStem?_eq_some_iff`, `Program.ofFileName_cases` — what a name is read as;
* `Program.named_eq_ok_iff`, `Program.cleanName_fileName` — free and own programs have clean names;
* `Program.ofFileName_exact` — file names are read exactly;
* `Changer.named_program_aliases` — the free programs that are named like an own one.
-/

namespace Autosampler

namespace Program

/-! ### The names of the changer's own programs -/

/-- The program is one of the changer's own. -/
def Own : Program → Prop
  | free _ => False
  | _ => True

/-- The slot of the program, if it visits one, fits into a word. -/
def Fits (p : Program) : Prop := ∀ slot ∈ p.slot?, slot < 2 ^ 64

/-- A name with a head, a numeral of the slot, and the ending. -/
def SlotName (head : String) (slot : Nat) (name : List Char) : Prop :=
  ∃ numeral, name = head.toList ++ numeral ++ ".urp".toList ∧ Text.Numeral numeral slot ∧
    slot < 2 ^ 64

/-- The text is a name of one of the changer's own programs. -/
def Names (name : List Char) : Program → Prop
  | load slot => SlotName "in" slot name
  | unload slot => SlotName "out" slot name
  | mount slot => SlotName "messpos" slot name
  | unmount slot => SlotName "messposin" slot name
  | scan => name = "scan.urp".toList
  | reset => name = "reset.urp".toList
  | free _ => False

/-- A name of a program file: something before the ending, and neither blanks nor control
characters inside. -/
structure CleanName (name : List Char) : Prop where
  file : ∃ stem, stem ≠ [] ∧ name = stem ++ ".urp".toList
  blank : ∀ c ∈ name, Text.isBlank c = false
  control : ∀ c ∈ name, Text.isControl c = false

variable {p q : Program} {cs stem head numeral name : List Char} {slot : Nat}

/-! ### Taking a name apart -/

theorem stem?_eq_some_iff : stem? cs = some stem ↔ cs = stem ++ ".urp".toList := by
  unfold stem?
  constructor
  · intro h
    split at h
    · rename_i hsuffix
      obtain ⟨front, rfl⟩ := List.isSuffixOf_iff_suffix.mp hsuffix
      rw [List.length_append, Nat.add_sub_cancel, List.take_left] at h
      rw [← Option.some.inj h]
      rfl
    · cases h
  · rintro rfl
    have hsuffix : programEnding.isSuffixOf (stem ++ ".urp".toList) = true :=
      List.isSuffixOf_iff_suffix.mpr (List.suffix_append stem programEnding)
    have hlength : (stem ++ ".urp".toList).length - programEnding.length = stem.length := by
      rw [List.length_append]
      exact Nat.add_sub_cancel _ _
    rw [if_pos hsuffix, hlength, List.take_left]

theorem slotAfter?_eq_some_iff :
    slotAfter? head stem = some slot ↔
      ∃ numeral, stem = head ++ numeral ∧ Text.Numeral numeral slot ∧ slot < 2 ^ 64 := by
  unfold slotAfter?
  constructor
  · intro h
    split at h
    · rename_i hprefix
      obtain ⟨numeral, rfl⟩ := List.isPrefixOf_iff_prefix.mp hprefix
      rw [List.drop_left, Text.readWord?_eq_some_iff] at h
      exact ⟨numeral, rfl, h⟩
    · cases h
  · rintro ⟨numeral, rfl, hnumeral, hlt⟩
    rw [if_pos (List.isPrefixOf_iff_prefix.mpr (List.prefix_append head numeral)), List.drop_left]
    exact Text.readWord?_eq_some_iff.mpr ⟨hnumeral, hlt⟩

/-- A character that no numeral contains. -/
def isLetter (c : Char) : Bool := c != '+' && !Text.isDigit c

theorem takeWhile_letters (hhead : head.all isLetter = true)
    (hnumeral : Text.Numeral numeral slot) :
    (head ++ numeral).takeWhile isLetter = head := by
  obtain ⟨c, rest, rfl, hc⟩ := hnumeral.head
  have hfirst : ¬isLetter c = true := by
    rcases hc with rfl | hc
    · decide
    · simp [isLetter, hc]
  rw [List.takeWhile_append_of_pos (List.all_eq_true.mp hhead), List.takeWhile_cons_of_neg hfirst,
    List.append_nil]

/-- Where a numeral begins can be told if there are letters in front of it. -/
theorem append_numeral_inj {head' numeral' : List Char} {m n : Nat}
    (hhead : head.all isLetter = true) (hhead' : head'.all isLetter = true)
    (hnumeral : Text.Numeral numeral m) (hnumeral' : Text.Numeral numeral' n)
    (h : head ++ numeral = head' ++ numeral') : head = head' ∧ numeral = numeral' := by
  have hsame : head = head' := by
    rw [← takeWhile_letters hhead hnumeral, h, takeWhile_letters hhead' hnumeral']
  subst hsame
  exact ⟨rfl, List.append_cancel_left h⟩

theorem letters_of_mem_slotted {entry : List Char × (Nat → Program)} (h : entry ∈ slotted) :
    entry.1.all isLetter = true := by
  have hall : ∀ letters ∈ slotted.map Prod.fst, letters.all isLetter = true := by decide
  exact hall entry.1 (List.mem_map_of_mem h)

/-- No stem has the letters of two programs and their numerals, whichever is looked for first. -/
theorem slotted_unique {entry other : List Char × (Nat → Program)} {m n : Nat}
    (hentry : entry ∈ slotted) (hother : other ∈ slotted)
    (hslot : slotAfter? entry.1 stem = some m) (hslot' : slotAfter? other.1 stem = some n) :
    entry = other ∧ m = n := by
  obtain ⟨numeral, rfl, hnumeral, -⟩ := slotAfter?_eq_some_iff.mp hslot
  obtain ⟨numeral', hstem, hnumeral', -⟩ := slotAfter?_eq_some_iff.mp hslot'
  obtain ⟨hhead, rfl⟩ := append_numeral_inj (letters_of_mem_slotted hentry)
    (letters_of_mem_slotted hother) hnumeral hnumeral' hstem
  have hnodup : (slotted.map Prod.fst).Nodup := by decide
  exact ⟨List.inj_on_of_nodup_map hnodup hentry hother hhead, hnumeral.value_unique hnumeral'⟩

theorem ofStem?_eq_some_iff :
    ofStem? stem = some p ↔
      ∃ entry ∈ slotted, ∃ slot, slotAfter? entry.1 stem = some slot ∧ entry.2 slot = p := by
  have hsound : ∀ {q}, ofStem? stem = some q →
      ∃ entry ∈ slotted, ∃ slot, slotAfter? entry.1 stem = some slot ∧ entry.2 slot = q := by
    intro q hq
    obtain ⟨entry, hentry, hmap⟩ := List.exists_of_findSome?_eq_some hq
    exact ⟨entry, hentry, Option.map_eq_some_iff.mp hmap⟩
  refine ⟨hsound, ?_⟩
  rintro ⟨entry, hentry, slot, hslot, rfl⟩
  cases hfound : ofStem? stem with
  | none =>
    have hnone := List.findSome?_eq_none_iff.mp hfound entry hentry
    rw [hslot] at hnone
    cases hnone
  | some q =>
    obtain ⟨other, hother, slot', hslot', rfl⟩ := hsound hfound
    obtain ⟨rfl, rfl⟩ := slotted_unique hentry hother hslot hslot'
    rfl

/-- The stems of slotted programs, spelled out. -/
theorem ofStem?_eq_some_iff_names (hstem : name = stem ++ ".urp".toList) :
    ofStem? stem = some p ↔ Names name p ∧ p ≠ scan ∧ p ≠ reset := by
  have hentry : ∀ head slot, SlotName head slot name ↔ slotAfter? head.toList stem = some slot := by
    intro head slot
    rw [slotAfter?_eq_some_iff, SlotName, hstem]
    exact exists_congr fun numeral => and_congr_left fun _ => List.append_left_inj _
  rw [ofStem?_eq_some_iff]
  simp only [slotted, List.mem_cons, List.not_mem_nil, or_false, exists_eq_or_imp, exists_eq_left,
    ← hentry]
  cases p <;> simp [Names]

/-! ### Reading a file name -/

theorem Names.own (h : Names name p) : p.Own := by
  cases p with
  | free _ => exact h
  | _ => trivial

theorem Names.fits (h : Names name p) : p.Fits := by
  intro slot hslot
  cases p with
  | load _ | unload _ | mount _ | unmount _ =>
    obtain ⟨-, -, -, hlt⟩ := h
    cases hslot
    exact hlt
  | scan | reset | free _ => cases hslot

theorem exists_stem (h : Names name p) : ∃ stem, name = stem ++ ".urp".toList := by
  cases p with
  | load _ | unload _ | mount _ | unmount _ =>
    obtain ⟨numeral, hname, -⟩ := h
    exact ⟨_, hname⟩
  | scan => exact ⟨"scan".toList, h⟩
  | reset => exact ⟨"reset".toList, h⟩
  | free _ => exact h.elim

theorem ofFileName_of_names {text : String} (h : Names (Text.trim text.toList) p) :
    ofFileName text = .ok p := by
  obtain ⟨stem, hstem⟩ := exists_stem h
  rw [ofFileName, stem?_eq_some_iff.mpr hstem]
  dsimp only
  have hending : ∀ {front : List Char}, Text.trim text.toList = front ++ ".urp".toList →
      stem = front := fun hfront => List.append_cancel_right (hstem.symm.trans hfront)
  by_cases hscan : p = scan
  · subst hscan
    obtain rfl : stem = "scan".toList := hending h
    rfl
  by_cases hreset : p = reset
  · subst hreset
    obtain rfl : stem = "reset".toList := hending h
    rfl
  have hfound : ofStem? stem = some p := (ofStem?_eq_some_iff_names hstem).mpr ⟨h, hscan, hreset⟩
  rw [if_neg (by rintro rfl; cases hfound), if_neg (by rintro rfl; cases hfound), hfound]

theorem ofFileName_of_forall_not_names {text : String}
    (h : ∀ p, ¬Names (Text.trim text.toList) p) : ofFileName text = named text := by
  rw [ofFileName]
  cases hstem : stem? (Text.trim text.toList) with
  | none => rfl
  | some stem =>
    have htext := stem?_eq_some_iff.mp hstem
    have hscan : stem ≠ "scan".toList := by
      rintro rfl
      exact h scan htext
    have hreset : stem ≠ "reset".toList := by
      rintro rfl
      exact h reset htext
    have hnone : ofStem? stem = none := by
      rw [Option.eq_none_iff_forall_not_mem]
      exact fun p hp => h p ((ofStem?_eq_some_iff_names htext).mp hp).1
    dsimp only
    rw [if_neg hscan, if_neg hreset, hnone]

/-- A free program has the trimmed name, which is clean. -/
theorem named_eq_ok_iff {text : String} :
    named text = .ok p ↔ p = free (Text.trimmed text) ∧ CleanName (Text.trim text.toList) := by
  have hclean : (Text.trim text.toList).any (fun c => Text.isBlank c || Text.isControl c) = false ↔
      (∀ c ∈ Text.trim text.toList, Text.isBlank c = false) ∧
        ∀ c ∈ Text.trim text.toList, Text.isControl c = false := by
    simp only [List.any_eq_false, Bool.or_eq_true, not_or, Bool.not_eq_true, forall_and]
  have hfile : (∃ stem, stem ≠ [] ∧ Text.trim text.toList = stem ++ ".urp".toList) ↔
      ∃ stem, stem ≠ [] ∧ stem? (Text.trim text.toList) = some stem := by
    simp only [stem?_eq_some_iff]
  have hsplit : CleanName (Text.trim text.toList) ↔
      (∃ stem, stem ≠ [] ∧ stem? (Text.trim text.toList) = some stem) ∧
        (Text.trim text.toList).any (fun c => Text.isBlank c || Text.isControl c) = false :=
    ⟨fun h => ⟨hfile.mp h.file, hclean.mpr ⟨h.blank, h.control⟩⟩,
      fun h => ⟨hfile.mpr h.1, (hclean.mp h.2).1, (hclean.mp h.2).2⟩⟩
  rw [hsplit, named]
  rcases hstem : stem? (Text.trim text.toList) with _ | _ | ⟨c, stem⟩
  · simp
  · simp
  · cases hany : (Text.trim text.toList).any fun c => Text.isBlank c || Text.isControl c
    · simp [Text.trimmed, eq_comm]
    · simp

theorem named_trimmed (text : String) : named (Text.trimmed text) = named text := by
  rw [named, Text.trim_trimmed, ← named]

/-! ### Writing a file name -/

/-- Neither a blank nor a control character. -/
def isClean (c : Char) : Bool := !Text.isBlank c && !Text.isControl c

theorem isClean_of_isDigit {c : Char} (h : Text.isDigit c = true) : isClean c = true := by
  obtain ⟨hge, hle⟩ := Text.isDigit_iff.mp h
  have hblank : Text.isBlank c = false := by
    simp [Text.isBlank]
    omega
  have hcontrol : Text.isControl c = false := by
    simp [Text.isControl]
    omega
  rw [isClean, hblank, hcontrol]
  rfl

theorem cleanName_of_all (hne : stem ≠ []) (h : (stem ++ ".urp".toList).all isClean = true) :
    CleanName (stem ++ ".urp".toList) := by
  have hall : ∀ c ∈ stem ++ ".urp".toList, Text.isBlank c = false ∧ Text.isControl c = false := by
    simpa only [isClean, List.all_eq_true, Bool.and_eq_true, Bool.not_eq_true'] using h
  exact ⟨⟨stem, hne, rfl⟩, fun c hc => (hall c hc).1, fun c hc => (hall c hc).2⟩

/-- The number does not matter for a name to be clean. -/
theorem cleanName_slotted {head : String} (hne : head.toList ≠ [])
    (hhead : head.toList.all isClean = true) (slot : Nat) :
    CleanName (head ++ Text.decimal slot ++ ".urp").toList := by
  have hdigits : (Text.decimal slot).toList.all isClean = true := by
    rw [Text.decimal, String.toList_ofList, List.all_eq_true]
    exact fun c hc => isClean_of_isDigit (Text.isDigit_of_mem_decimalDigits hc)
  have hending : ".urp".toList.all isClean = true := by decide
  rw [String.toList_append, String.toList_append]
  refine cleanName_of_all (List.append_ne_nil_of_left_ne_nil hne _) ?_
  rw [List.all_append, List.all_append, hhead, hdigits, hending]
  rfl

/-- The changer's own programs have clean names. -/
theorem cleanName_fileName (h : p.Own) : CleanName p.fileName.toList := by
  cases p with
  | load slot => exact cleanName_slotted (by decide) (by decide) slot
  | unload slot => exact cleanName_slotted (by decide) (by decide) slot
  | mount slot => exact cleanName_slotted (by decide) (by decide) slot
  | unmount slot => exact cleanName_slotted (by decide) (by decide) slot
  | scan => exact cleanName_of_all (by decide : "scan".toList ≠ []) (by decide)
  | reset => exact cleanName_of_all (by decide : "reset".toList ≠ []) (by decide)
  | free name => exact h.elim

theorem CleanName.trim (h : CleanName name) : Text.trim name = name :=
  Text.trim_of_isTrimmed (Text.isTrimmed_of_solid h.blank)

theorem slotName_decimal {head : String} (hslot : slot < 2 ^ 64) :
    SlotName head slot (head ++ Text.decimal slot ++ ".urp").toList := by
  refine ⟨Text.decimalDigits slot, ?_, Text.numeral_decimalDigits slot, hslot⟩
  rw [String.toList_append, String.toList_append, Text.decimal, String.toList_ofList]

/-- The file name of a program is one of its names. -/
theorem names_fileName (h : p.Own) (hfits : p.Fits) : Names p.fileName.toList p := by
  cases p with
  | load slot | unload slot | mount slot | unmount slot => exact slotName_decimal (hfits slot rfl)
  | scan | reset => exact rfl
  | free name => exact h

theorem ofFileName_fileName (h : p.Own) (hfits : p.Fits) : ofFileName p.fileName = .ok p := by
  refine ofFileName_of_names ?_
  rw [(cleanName_fileName h).trim]
  exact names_fileName h hfits

/-- What a file name is read as: the own program that it names, else a free one. -/
theorem ofFileName_cases {text : String} (h : ofFileName text = .ok p) :
    Names (Text.trim text.toList) p ∨
      (∀ q, ¬Names (Text.trim text.toList) q) ∧ named text = .ok p := by
  by_cases hnames : ∃ q, Names (Text.trim text.toList) q
  · obtain ⟨q, hq⟩ := hnames
    rw [ofFileName_of_names hq] at h
    exact Or.inl (Except.ok.inj h ▸ hq)
  · rw [not_exists] at hnames
    exact Or.inr ⟨hnames, ofFileName_of_forall_not_names hnames ▸ h⟩

/-- File names are read exactly.  One of the changer's own programs is read from its names and from
nothing else, and what names none of them is read as a free program.  Of the names of an own program
one is written, no two own programs share it, and what was read from any name is read again from the
name that is written for it. -/
theorem ofFileName_exact (name : String) :
    (∀ p : Program, p.Own → (ofFileName name = .ok p ↔ Names (Text.trim name.toList) p)) ∧
    ((∀ p, ¬Names (Text.trim name.toList) p) → ofFileName name = named name) ∧
    (∀ p : Program, p.Own → p.Fits → ofFileName p.fileName = .ok p) ∧
    (∀ p q : Program, p.Own → p.Fits → q.Own → q.Fits → p.fileName = q.fileName → p = q) ∧
    ∀ p, ofFileName name = .ok p → ofFileName p.fileName = .ok p := by
  refine ⟨fun p hp => ⟨fun h => ?_, ofFileName_of_names⟩, ofFileName_of_forall_not_names,
    fun p => ofFileName_fileName, fun p q hp hfits hq hfits' h => ?_, fun p h => ?_⟩
  · rcases ofFileName_cases h with hnames | ⟨-, hnamed⟩
    · exact hnames
    · rw [(named_eq_ok_iff.mp hnamed).1] at hp
      exact hp.elim
  · have hread := ofFileName_fileName hp hfits
    rw [h, ofFileName_fileName hq hfits'] at hread
    exact (Except.ok.inj hread).symm
  · rcases ofFileName_cases h with hnames | ⟨hnames, hnamed⟩
    · exact ofFileName_fileName hnames.own hnames.fits
    · have hfree : p.fileName = Text.trimmed name := by rw [(named_eq_ok_iff.mp hnamed).1, fileName]
      rw [hfree, ofFileName_of_forall_not_names (by rwa [Text.trim_trimmed]), named_trimmed, hnamed]

/-- A plus sign and zeros make no difference, and a name without a number is free. -/
theorem ofFileName_of_signed_numeral :
    Names (Text.trim " messposin+007.urp\n".toList) (unmount 7) ∧
      ofFileName (unmount 7).fileName = .ok (unmount 7) ∧
      (mount 7).fileName ≠ (unmount 7).fileName ∧
      ofFileName "messposin.urp" = named "messposin.urp" := by
  obtain ⟨hown, -, -, hinjective, hagain⟩ := ofFileName_exact " messposin+007.urp\n"
  obtain ⟨hown', hfree, -⟩ := ofFileName_exact "messposin.urp"
  have hread : ofFileName " messposin+007.urp\n" = .ok (unmount 7) := by decide +kernel
  have hread' : ofFileName "messposin.urp" = .ok (free "messposin.urp") := by decide +kernel
  refine ⟨(hown (unmount 7) trivial).mp hread, hagain (unmount 7) hread, fun h => ?_,
    hfree fun p hp => ?_⟩
  · cases hinjective (mount 7) (unmount 7) trivial (by simp [Fits, slot?]) trivial
      (by simp [Fits, slot?]) h
  · have hnamed := (hown' p hp.own).mpr hp
    rw [hread'] at hnamed
    cases hnamed
    exact hp

/-! ### Names that are written for own programs -/

/-- A name with a head, a numeral with neither a sign nor a zero in front, and the ending. -/
def PlainName (head : String) (name : List Char) : Prop :=
  ∃ numeral slot, name = head.toList ++ numeral ++ ".urp".toList ∧ Text.Numeral numeral slot ∧
    slot < 2 ^ 64 ∧ Text.Plain numeral

theorem plainName_iff {head : String} :
    PlainName head name ↔
      ∃ slot, slot < 2 ^ 64 ∧ (head ++ Text.decimal slot ++ ".urp").toList = name := by
  simp only [String.toList_append, Text.decimal, String.toList_ofList]
  constructor
  · rintro ⟨numeral, slot, rfl, hnumeral, hlt, hplain⟩
    exact ⟨slot, hlt, by rw [hnumeral.plain_iff.mp hplain]⟩
  · rintro ⟨slot, hlt, rfl⟩
    have hnumeral := Text.numeral_decimalDigits slot
    exact ⟨_, slot, rfl, hnumeral, hlt, hnumeral.plain_iff.mpr rfl⟩

theorem exists_iff {P : Program → Prop} :
    (∃ q, P q) ↔ ((∃ slot, P (load slot)) ∨ (∃ slot, P (unload slot)) ∨ (∃ slot, P (mount slot)) ∨
      ∃ slot, P (unmount slot)) ∨ P scan ∨ P reset ∨ ∃ name, P (free name) := by
  constructor
  · rintro ⟨q, hq⟩
    cases q with
    | load slot => exact .inl (.inl ⟨slot, hq⟩)
    | unload slot => exact .inl (.inr (.inl ⟨slot, hq⟩))
    | mount slot => exact .inl (.inr (.inr (.inl ⟨slot, hq⟩)))
    | unmount slot => exact .inl (.inr (.inr (.inr ⟨slot, hq⟩)))
    | scan => exact .inr (.inl hq)
    | reset => exact .inr (.inr (.inl hq))
    | free name => exact .inr (.inr (.inr ⟨name, hq⟩))
  · rintro ((⟨_, h⟩ | ⟨_, h⟩ | ⟨_, h⟩ | ⟨_, h⟩) | h | h | ⟨_, h⟩) <;> exact ⟨_, h⟩

/-- The names that are written for the changer's own programs. -/
theorem exists_own_fileName_iff :
    (∃ q : Program, q.Own ∧ q.Fits ∧ q.fileName.toList = name) ↔
      (∃ head ∈ ["in", "out", "messpos", "messposin"], PlainName head name) ∨
        "scan.urp".toList = name ∨ "reset.urp".toList = name := by
  simp only [exists_iff, Own, Fits, slot?, fileName, plainName_iff, List.mem_cons,
    List.not_mem_nil, or_false, exists_eq_or_imp, exists_eq_left, Option.mem_some_iff, forall_eq',
    Option.not_mem_none, true_and, false_and, exists_false, false_imp_iff, implies_true]

/-- The names that are written for the programs that carry a sample of the magazine. -/
theorem exists_carriesSample_fileName_iff :
    (∃ q : Program, q.carriesSample = true ∧ q.Fits ∧ q.fileName.toList = name) ↔
      ∃ head ∈ ["messpos", "messposin"], PlainName head name := by
  simp only [exists_iff, carriesSample, Fits, slot?, fileName, plainName_iff, List.mem_cons,
    List.not_mem_nil, or_false, exists_eq_or_imp, exists_eq_left, Option.mem_some_iff, forall_eq',
    true_and, false_and, exists_false, reduceCtorEq, false_or]

end Program

namespace Changer

variable {c c' : Changer} {p : Plan} {name : String}

/-- What is planned to run a free program. -/
def freePlan (name : String) : Plan :=
  ⟨.free (Text.trimmed name), .runProgram, Event.runProgram.id, none⟩

/-- A free program is planned at home, under any clean name. -/
theorem plan_runProgram_eq_ok_iff :
    c.plan (.runProgram name) = (c', .ok (some p)) ↔
      c' = c ∧ c.state = .home ∧ Program.CleanName (Text.trim name.toList) ∧ p = freePlan name := by
  have hrun : c.planRun name = .ok p ↔ c.state = .home ∧
      ∃ program, Program.named name = .ok program ∧
        p = ⟨program, .runProgram, Event.runProgram.id, none⟩ := by
    unfold planRun
    split
    · rename_i hhome
      split
      · rename_i program hnamed
        simp [hhome, hnamed, eq_comm]
      · rename_i fault hnamed
        simp [hnamed]
    · rename_i hhome
      simp [hhome]
  have hplan : c.plan (.runProgram name) = (c', .ok (some p)) ↔
      c' = c ∧ c.planRun name = .ok p := by
    rw [plan, Prod.mk.injEq, eq_comm]
    cases c.planRun name <;> simp [Except.map]
  rw [hplan, hrun]
  simp only [Program.named_eq_ok_iff, and_assoc, exists_eq_left, freePlan]

theorem started_freePlan_state (h : c.state = .home) :
    (c.started (freePlan name)).state = .runningProgram := by
  show (freePlan name).goal c.state = .runningProgram
  rw [h]
  rfl

/-- The acknowledgement of a free program tells that the arm is home, and nothing else. -/
theorem hear_ok_of_runningProgram (hs : c.state = .runningProgram)
    (htag : c.machine.tag = some Event.runProgram.id) (label : Option String) :
    c.hear .ok label
      = c.dropPending.arrive .programFinished .home Event.programFinished.id none := by
  have hwears : c.state.Wears c.machine.tag := by
    rw [hs, htag]
    rfl
  have htarget : Event.programFinished.target? c.state = some .home := by
    rw [hs]
    rfl
  have hbooks : c.acknowledge = c.dropPending := by simp only [acknowledge, hs]
  rw [hear_ok_of_target hwears (by rw [hs]; decide) htarget State.noConfusion, hbooks]

/-- A free program is started under the tag of free programs, and neither its start nor its end
changes what is known of the samples. -/
theorem run_free (h : c.plan (.runProgram name) = (c', .ok (some p))) (label : Option String) :
    c.calls (.command (.runProgram name) willing) =
        [(.run (Text.trimmed name) Event.runProgram.id, .ok ())] ∧
      (c.run [.command (.runProgram name) willing, .message .ok label]).state = .home ∧
      (c.run [.command (.runProgram name) willing, .message .ok label]).mounted = c.mounted ∧
      (c.run [.command (.runProgram name) willing, .message .ok label]).magazine = c.magazine := by
  obtain ⟨rfl, hhome, -, rfl⟩ := plan_runProgram_eq_ok_iff.mp h
  refine ⟨?_, ?_⟩
  · simp only [calls, command_of_plan h, execute_of_planned (planned_of_plan h)]
    rfl
  · rw [run_cons, run_cons, run_nil, step_of_plan h, step,
      hear_ok_of_runningProgram (started_freePlan_state hhome) rfl label]
    exact ⟨rfl, rfl, rfl⟩

/-- A free program shares its file name with one of the changer's own exactly if its name is written
for that, and with one that carries a sample exactly if the name says so.  It is read from its file
name again exactly if that is no name of an own program.  The robot is asked for all of these, and
what is known of the samples is the same after the program as before. -/
theorem named_program_aliases (h : c.plan (.runProgram name) = (c', .ok (some p))) :
    p.program = .free (Text.trimmed name) ∧
    ((∃ q : Program, q.Own ∧ q.Fits ∧ q.fileName = p.program.fileName) ↔
      (∃ head ∈ ["in", "out", "messpos", "messposin"],
        Program.PlainName head (Text.trim name.toList)) ∨
      "scan.urp".toList = Text.trim name.toList ∨ "reset.urp".toList = Text.trim name.toList) ∧
    ((∃ q : Program, q.carriesSample = true ∧ q.Fits ∧ q.fileName = p.program.fileName) ↔
      ∃ head ∈ ["messpos", "messposin"], Program.PlainName head (Text.trim name.toList)) ∧
    (Program.ofFileName p.program.fileName = .ok p.program ↔
      ∀ q, ¬Program.Names (Text.trim name.toList) q) ∧
    c.calls (.command (.runProgram name) willing) =
      [(.run (Text.trimmed name) Event.runProgram.id, .ok ())] ∧
    ∀ label, (c.run [.command (.runProgram name) willing, .message .ok label]).state = .home ∧
      (c.run [.command (.runProgram name) willing, .message .ok label]).mounted = c.mounted ∧
      (c.run [.command (.runProgram name) willing, .message .ok label]).magazine = c.magazine := by
  have hfree := run_free h
  obtain ⟨rfl, hhome, hclean, rfl⟩ := plan_runProgram_eq_ok_iff.mp h
  have hname : ∀ q : Program, q.fileName = (freePlan name).program.fileName ↔
      q.fileName.toList = Text.trim name.toList := by
    intro q
    rw [← String.toList_inj, freePlan, Program.fileName.eq_7, Text.trimmed, String.toList_ofList]
  refine ⟨rfl, ?_, ?_, ?_, (hfree none).1, fun label => (hfree label).2⟩
  · simp only [hname, Program.exists_own_fileName_iff]
  · simp only [hname, Program.exists_carriesSample_fileName_iff]
  · constructor
    · intro hread
      rcases Program.ofFileName_cases hread with hnames | ⟨hnames, -⟩
      · exact hnames.own.elim
      · rwa [freePlan, Program.fileName.eq_7, Text.trim_trimmed] at hnames
    · intro hnames
      rw [freePlan, Program.fileName.eq_7,
        Program.ofFileName_of_forall_not_names (by rwa [Text.trim_trimmed]), Program.named_trimmed]
      exact Program.named_eq_ok_iff.mpr ⟨rfl, hclean⟩

/-- The name of no own program, with a blank in front. -/
theorem named_program_calibrate :
    (ofSize 1).plan (.runProgram " calibrate.urp") =
        (ofSize 1, .ok (some (freePlan " calibrate.urp"))) ∧
      Program.ofFileName "calibrate.urp" = .ok (.free "calibrate.urp") ∧
      ∀ q, ¬Program.Names (Text.trim " calibrate.urp".toList) q := by
  have hplan : (ofSize 1).plan (.runProgram " calibrate.urp") =
      (ofSize 1, .ok (some (freePlan " calibrate.urp"))) := by decide +kernel
  have hread : Program.ofFileName (freePlan " calibrate.urp").program.fileName =
      .ok (freePlan " calibrate.urp").program := by decide +kernel
  obtain ⟨-, -, -, hnames, -⟩ := named_program_aliases hplan
  exact ⟨hplan, by decide +kernel, hnames.mp hread⟩

/-- The name of a mount program is accepted with a sample in its slot.  The robot is asked for that
program as for a free one, and after it the sample is known to be in its slot. -/
theorem named_program_messpos :
    ((ofSize 1).run loadOne).plan (.runProgram "messpos0.urp") =
        ((ofSize 1).run loadOne, .ok (some (freePlan "messpos0.urp"))) ∧
      (freePlan "messpos0.urp").program.fileName = (Program.mount 0).fileName ∧
      Program.ofFileName (freePlan "messpos0.urp").program.fileName = .ok (.mount 0) ∧
      ((ofSize 1).run loadOne).calls (.command (.runProgram "messpos0.urp") willing) =
        [(.run (Program.mount 0).fileName Event.runProgram.id, .ok ())] ∧
      (((ofSize 1).run loadOne).run
        [.command (.runProgram "messpos0.urp") willing, .message .ok none]).mounted = none ∧
      (((ofSize 1).run loadOne).run
        [.command (.runProgram "messpos0.urp") willing, .message .ok none]).magazine.slots
          = ["@0"] := by
  decide +kernel

end Changer

end Autosampler

import Autosampler.Robot.Registry
import Mathlib.Data.List.Induction
import Mathlib.Data.List.Nodup

/-!
# Which factory builds a backend

A registry keeps one factory for each plain name.  What was registered, and what was taken over from
other registries, is kept beside it in full and in order; the last of it counts for each name.

* `Registry.lookup?`, `Registry.lookup?_place`, `Registry.lookup?_foldl_place` — what is found among
  entries that were put in;
* `Registry.place_comm`, `Registry.merge_of_perm` — the order of a merge does not matter;
* `Registry.Sound` — names that are plain and increasing;
* `RegistryCall`, `Registry.afterCalls` — any number of registries and what is done with them;
* `Registry.registrations`, `Registry.Registered`, `Registry.latest?` — what was registered, and the
  last of it;
* `Registry.Recorded`, `Registry.recorded_step`, `Registry.recorded_run` — the registries follow it;
* `latest_registration_counts` — which backends there are, and what builds them.
-/

namespace Autosampler

namespace Registry

/-! ### Entries -/

section Entries

variable {entries taken : List (String × Factory)} {name wanted : String} {factory : Factory}

/-- The factory under a plain name among some entries. -/
def lookup? (entries : List (String × Factory)) (wanted : String) : Option Factory :=
  (entries.find? fun e => e.1 = wanted).map Prod.snd

theorem lookup?_cons (entry : String × Factory) (entries : List (String × Factory))
    (wanted : String) :
    lookup? (entry :: entries) wanted
      = if entry.1 = wanted then some entry.2 else lookup? entries wanted := by
  rw [lookup?, List.find?_cons]
  by_cases h : entry.1 = wanted
  · simp [h]
  · simp [h, lookup?]

theorem isSome_lookup? : (lookup? entries wanted).isSome = true ↔ wanted ∈ entries.map Prod.fst := by
  simp [lookup?, List.find?_isSome]

theorem lookup?_place (name : String) (factory : Factory) (entries : List (String × Factory))
    (wanted : String) :
    lookup? (place name factory entries) wanted
      = if name = wanted then some factory else lookup? entries wanted := by
  induction entries with
  | nil => rw [place, lookup?_cons]
  | cons entry entries ih =>
    rw [place]
    split
    · rename_i hsame
      rw [lookup?_cons, lookup?_cons, ← hsame]
      split <;> rfl
    · rename_i hother
      split
      · rw [lookup?_cons]
      · rw [lookup?_cons, lookup?_cons, ih]
        by_cases hentry : entry.1 = wanted
        · rw [if_pos hentry, if_neg (hentry ▸ hother), if_pos hentry]
        · rw [if_neg hentry, if_neg hentry]

/-- What is taken over goes before what was there. -/
theorem lookup?_foldl_place (h : (taken.map Prod.fst).Pairwise (· < ·)) :
    lookup? (taken.foldl (fun entries e => place e.1 e.2 entries) entries) wanted
      = (lookup? taken wanted).or (lookup? entries wanted) := by
  induction taken generalizing entries with
  | nil => rfl
  | cons entry taken ih =>
    obtain ⟨hfirst, hrest⟩ := List.pairwise_cons.mp h
    rw [List.foldl_cons, ih hrest, lookup?_place, lookup?_cons]
    by_cases hentry : entry.1 = wanted
    · have hnone : lookup? taken wanted = none := by
        rw [← Option.not_isSome_iff_eq_none, isSome_lookup?, ← hentry]
        exact fun hmem => String.lt_irrefl _ (hfirst _ hmem)
      rw [if_pos hentry, if_pos hentry, hnone, Option.none_or, Option.some_or]
    · rw [if_neg hentry, if_neg hentry]

theorem mem_names_place {other : String} :
    other ∈ (place name factory entries).map Prod.fst
      ↔ other = name ∨ other ∈ entries.map Prod.fst := by
  rw [← isSome_lookup?, lookup?_place, ← isSome_lookup?]
  by_cases h : name = other
  · simp [h]
  · simp [h, Ne.symm h]

theorem increasing_place (h : (entries.map Prod.fst).Pairwise (· < ·)) :
    ((place name factory entries).map Prod.fst).Pairwise (· < ·) := by
  induction entries with
  | nil => exact List.pairwise_singleton _ _
  | cons entry entries ih =>
    obtain ⟨hfirst, hrest⟩ := List.pairwise_cons.mp h
    rw [place]
    split
    · rename_i hsame
      exact List.pairwise_cons.mpr ⟨hsame ▸ hfirst, hrest⟩
    · split
      · rename_i hlt
        refine List.pairwise_cons.mpr ⟨fun other hmem => ?_, h⟩
        rcases List.mem_cons.mp hmem with rfl | hmem
        · exact hlt
        · exact String.lt_trans hlt (hfirst other hmem)
      · rename_i hother hnot
        refine List.pairwise_cons.mpr ⟨fun other hmem => ?_, ih hrest⟩
        rcases mem_names_place.mp hmem with rfl | hmem
        · exact Std.lt_of_le_of_ne (String.not_lt.mp hnot) (Ne.symm hother)
        · exact hfirst other hmem

/-- Entries under different names may be put in either way. -/
theorem place_comm {other : String} (later : Factory) (h : name ≠ other)
    (entries : List (String × Factory)) :
    place other later (place name factory entries)
      = place name factory (place other later entries) := by
  induction entries with
  | nil => grind [place]
  | cons entry entries ih => grind [place]

end Entries

/-! ### One registry -/

section One

variable {r other : Registry}

/-- The names are plain and increasing. -/
structure Sound (r : Registry) : Prop where
  increasing : r.names.Pairwise (· < ·)
  plain : ∀ name ∈ r.names, Text.plainName name = name

theorem sound_empty : Sound empty := ⟨List.Pairwise.nil, nofun⟩

theorem Sound.nodup (h : r.Sound) : r.names.Nodup :=
  List.Pairwise.imp (fun hlt => Std.ne_of_lt hlt) h.increasing

theorem Sound.place {name : String} (h : r.Sound) (hname : Text.plainName name = name)
    (factory : Factory) : Sound ⟨place name factory r.entries⟩ where
  increasing := increasing_place h.increasing
  plain wanted hmem := by
    rcases mem_names_place.mp hmem with rfl | hmem
    · exact hname
    · exact h.plain wanted hmem

theorem Sound.register (h : r.Sound) (name : String) (factory : Factory) :
    (r.register name factory).Sound :=
  h.place (Text.plainName_plainName name) factory

theorem Sound.takeOver (h : r.Sound) {taken : List (String × Factory)}
    (htaken : ∀ entry ∈ taken, Text.plainName entry.1 = entry.1) :
    Sound ⟨taken.foldl (fun entries e => Registry.place e.1 e.2 entries) r.entries⟩ := by
  induction taken generalizing r with
  | nil => exact h
  | cons entry taken ih =>
    exact ih (h.place (htaken entry List.mem_cons_self) entry.2)
      fun later hmem => htaken later (List.mem_cons_of_mem _ hmem)

theorem Sound.merge (h : r.Sound) (hother : other.Sound) : (r.merge other).Sound :=
  h.takeOver fun entry hmem => hother.plain entry.1 (List.mem_map_of_mem hmem)

theorem find?_register (r : Registry) (name : String) (factory : Factory) (wanted : String) :
    (r.register name factory).find? wanted
      = if Text.plainName name = Text.plainName wanted then some factory else r.find? wanted :=
  lookup?_place _ _ _ _

theorem find?_merge (r : Registry) (hother : other.Sound) (wanted : String) :
    (r.merge other).find? wanted = (other.find? wanted).or (r.find? wanted) :=
  lookup?_foldl_place hother.increasing

theorem Sound.mem_names_iff (h : r.Sound) {name : String} :
    name ∈ r.names ↔ Text.plainName name = name ∧ r.contains name = true := by
  have hfound : r.contains name = true ↔ Text.plainName name ∈ r.names := isSome_lookup?
  rw [hfound]
  constructor
  · intro hmem
    have hname := h.plain name hmem
    exact ⟨hname, hname.symm ▸ hmem⟩
  · rintro ⟨hname, hmem⟩
    exact hname ▸ hmem

/-- A merge may take over the entries in any order. -/
theorem merge_of_perm (r : Registry) (hother : other.Sound) {taken : List (String × Factory)}
    (h : taken.Perm other.entries) :
    r.merge other = ⟨taken.foldl (fun entries e => place e.1 e.2 entries) r.entries⟩ := by
  refine congrArg Registry.mk (h.symm.foldl_eq' (fun e he e' he' entries => ?_) r.entries)
  by_cases hsame : e.1 = e'.1
  · rw [List.inj_on_of_nodup_map hother.nodup he he' hsame]
  · exact place_comm e'.2 hsame entries

end One

end Registry

/-! ### Any number of registries -/

/-- What is done with registries. -/
inductive RegistryCall (κ : Type) where
  | register (registry : κ) (name : String) (factory : Factory)
  | merge (registry other : κ)

/-- The registry that the call changes. -/
def RegistryCall.target {κ : Type} : RegistryCall κ → κ
  | register registry _ _ => registry
  | merge registry _ => registry

namespace Registry

variable {κ : Type} [DecidableEq κ]

/-- What the call makes of its registry. -/
def changed (all : κ → Registry) : RegistryCall κ → Registry
  | .register registry name factory => (all registry).register name factory
  | .merge registry other => (all registry).merge (all other)

/-- The registries after a call. -/
def call (all : κ → Registry) (c : RegistryCall κ) (k : κ) : Registry :=
  if k = c.target then changed all c else all k

/-- The registries after some calls; they are empty at first. -/
def afterCalls (calls : List (RegistryCall κ)) : κ → Registry := calls.foldl call fun _ => empty

/-- What the call registers.  A merge registers once more all that was registered with the other. -/
def added (books : κ → List (String × Factory)) : RegistryCall κ → List (String × Factory)
  | .register _ name factory => [(name, factory)]
  | .merge _ other => books other

/-- The books of the registries with a call noted. -/
def note (books : κ → List (String × Factory)) (c : RegistryCall κ) (k : κ) :
    List (String × Factory) :=
  if k = c.target then books k ++ added books c else books k

/-- All that was registered, with merges, in order. -/
def registrations (calls : List (RegistryCall κ)) : κ → List (String × Factory) :=
  calls.foldl note fun _ => []

/-- The factory was registered under the name in the registry, or in one that was merged into it
after that. -/
inductive Registered : List (RegistryCall κ) → κ → String → Factory → Prop
  | register {calls : List (RegistryCall κ)} {registry : κ} {name : String} {factory : Factory} :
      Registered (calls ++ [.register registry name factory]) registry name factory
  | merge {calls : List (RegistryCall κ)} {registry other : κ} {name : String}
      {factory : Factory} :
      Registered calls other name factory →
      Registered (calls ++ [.merge registry other]) registry name factory
  | later {calls : List (RegistryCall κ)} {registry : κ} {name : String} {factory : Factory}
      (call : RegistryCall κ) :
      Registered calls registry name factory →
      Registered (calls ++ [call]) registry name factory

/-- The factory that was registered last under a name of the same plain form. -/
def latest? (book : List (String × Factory)) (wanted : String) : Option Factory :=
  ((book.filter fun entry => Text.plainName entry.1 = Text.plainName wanted).getLast?).map Prod.snd

section Books

variable {books : κ → List (String × Factory)} {all : κ → Registry}

theorem latest?_append (book later : List (String × Factory)) (wanted : String) :
    latest? (book ++ later) wanted = (latest? later wanted).or (latest? book wanted) := by
  rw [latest?, List.filter_append, List.getLast?_append, Option.map_or]
  rfl

theorem latest?_singleton (entry : String × Factory) (wanted : String) :
    latest? [entry] wanted
      = if Text.plainName entry.1 = Text.plainName wanted then some entry.2 else none := by
  by_cases h : Text.plainName entry.1 = Text.plainName wanted
  · simp [latest?, h]
  · simp [latest?, h]

theorem isSome_latest? {book : List (String × Factory)} {wanted : String} :
    (latest? book wanted).isSome = true
      ↔ ∃ entry ∈ book, Text.plainName entry.1 = Text.plainName wanted := by
  simp [latest?]

/-- The registries are sound, and in each the last registration counts. -/
def Recorded (all : κ → Registry) (books : κ → List (String × Factory)) : Prop :=
  ∀ k, (all k).Sound ∧ ∀ wanted, (all k).find? wanted = latest? (books k) wanted

theorem recorded_step (h : Recorded all books) (c : RegistryCall κ) :
    Recorded (call all c) (note books c) := by
  intro k
  by_cases hk : k = c.target
  · subst hk
    rw [call, if_pos rfl, note, if_pos rfl]
    obtain ⟨hsound, hlatest⟩ := h c.target
    cases c with
    | register registry name factory =>
      refine ⟨hsound.register name factory, fun wanted => ?_⟩
      rw [changed, find?_register, added, latest?_append, latest?_singleton, ← hlatest]
      split <;> rfl
    | merge registry other =>
      refine ⟨hsound.merge (h other).1, fun wanted => ?_⟩
      rw [changed, find?_merge _ (h other).1, added, latest?_append, ← hlatest, (h other).2]
      rfl
  · rw [call, if_neg hk, note, if_neg hk]
    exact h k

theorem recorded_run (calls : List (RegistryCall κ)) :
    Recorded (afterCalls calls) (registrations calls) := by
  suffices hrun : ∀ (all : κ → Registry) books, Recorded all books →
      Recorded (calls.foldl call all) (calls.foldl note books) from
    hrun _ _ fun _ => ⟨sound_empty, fun _ => rfl⟩
  induction calls with
  | nil => exact fun _ _ h => h
  | cons c calls ih => exact fun all books h => ih _ _ (recorded_step h c)

theorem registrations_append (calls : List (RegistryCall κ)) (c : RegistryCall κ) :
    registrations (calls ++ [c]) = note (registrations calls) c := by
  rw [registrations, List.foldl_append]
  rfl

theorem mem_note_of_added {c : RegistryCall κ} {entry : String × Factory}
    (h : entry ∈ added books c) : entry ∈ note books c c.target := by
  rw [note, if_pos rfl]
  exact List.mem_append_right _ h

theorem mem_note_of_mem {c : RegistryCall κ} {k : κ} {entry : String × Factory}
    (h : entry ∈ books k) : entry ∈ note books c k := by
  rw [note]
  split
  · exact List.mem_append_left _ h
  · exact h

/-- The books hold what was registered, there or in a registry that was merged after that. -/
theorem mem_registrations_iff {calls : List (RegistryCall κ)} {k : κ} {name : String}
    {factory : Factory} :
    (name, factory) ∈ registrations calls k ↔ Registered calls k name factory := by
  constructor
  · intro hmem
    induction calls using List.reverseRecOn generalizing k with
    | nil => cases hmem
    | append_singleton calls c ih =>
      rw [registrations_append, note] at hmem
      split at hmem
      · rename_i hk
        subst hk
        rcases List.mem_append.mp hmem with hbefore | hadded
        · exact (ih hbefore).later c
        · cases c with
          | register registry given made =>
            cases List.mem_singleton.mp hadded
            exact .register
          | merge registry other => exact .merge (ih hadded)
      · exact (ih hmem).later c
  · intro h
    induction h with
    | register =>
      rw [registrations_append]
      exact mem_note_of_added List.mem_cons_self
    | merge _ ih =>
      rw [registrations_append]
      exact mem_note_of_added ih
    | later c _ ih =>
      rw [registrations_append]
      exact mem_note_of_mem ih

end Books

end Registry

/-- **For each name the latest registration counts.**  Registries, empty at first, were registered
with and merged in any way.  Names count by their plain form.  A backend is there if its name was
registered in the registry, or in one that was merged into it after that; a merge counts as a
registration when it is made.  What builds the backend is the factory that was registered last, and
if there is none the name is unknown.  The names are increasing, so that none is there twice, they
are plain, and each was registered.  It does not matter in which order a merge takes over the
entries. -/
theorem latest_registration_counts {κ : Type} [DecidableEq κ] (calls : List (RegistryCall κ)) (k : κ) :
    let r := Registry.afterCalls calls k
    let book := Registry.registrations calls k
    (∀ wanted, r.contains wanted = true ↔ ∃ name factory,
        Registry.Registered calls k name factory ∧ Text.plainName name = Text.plainName wanted) ∧
      (∀ name factory, (name, factory) ∈ book ↔ Registry.Registered calls k name factory) ∧
      (∀ wanted settings, r.build wanted settings =
        match Registry.latest? book wanted with
        | some factory => factory settings
        | none => .error ("Unknown robot backend: " ++ wanted)) ∧
      (∀ wanted, Registry.latest? book wanted = none ↔ r.contains wanted = false) ∧
      (r.names.Pairwise (· < ·) ∧ r.names.Nodup ∧
        ∀ name, name ∈ r.names ↔ Text.plainName name = name ∧ r.contains name = true) ∧
      ∀ other (taken : List (String × Factory)), taken.Perm (Registry.afterCalls calls other).entries →
        r.merge (Registry.afterCalls calls other)
          = ⟨taken.foldl (fun entries e => Registry.place e.1 e.2 entries) r.entries⟩ := by
  intro r book
  obtain ⟨hsound, hlatest⟩ := Registry.recorded_run calls k
  have hcontains : ∀ wanted, r.contains wanted = (Registry.latest? book wanted).isSome :=
    fun wanted => congrArg Option.isSome (hlatest wanted)
  refine ⟨fun wanted => ?_, fun name factory => Registry.mem_registrations_iff,
    fun wanted settings => ?_, fun wanted => ?_,
    ⟨hsound.increasing, hsound.nodup, fun name => hsound.mem_names_iff⟩,
    fun other taken => Registry.merge_of_perm r (Registry.recorded_run calls other).1⟩
  · rw [hcontains, Registry.isSome_latest?]
    constructor
    · rintro ⟨entry, hmem, hname⟩
      exact ⟨entry.1, entry.2, Registry.mem_registrations_iff.mp hmem, hname⟩
    · rintro ⟨name, factory, hregistered, hname⟩
      exact ⟨(name, factory), Registry.mem_registrations_iff.mpr hregistered, hname⟩
  · rw [← hlatest]
    rfl
  · rw [hcontains, Option.isSome_eq_false_iff, Option.isNone_iff_eq_none]

/-- Two registries, the second of which is merged into the first. -/
def mergedCalls : List (RegistryCall Bool) :=
  [.register false "Dummy" fun _ => .ok .dummy, .register true "UR" Dashboard.factory,
   .register true "dum-my" fun _ => .error "broken", .merge false true,
   .register true "late" fun _ => .ok .dummy]

/-- The factory of the merge counts, and what is registered with the other registry later does not. -/
theorem latest_registration_counts_merged :
    let r := Registry.afterCalls mergedCalls false
    let other := Registry.afterCalls mergedCalls true
    r.build "DUMMY" Settings.offline = .error "broken" ∧
      r.build "Late" Settings.offline = .error "Unknown robot backend: Late" ∧
      r.names = ["dummy", "ur"] ∧ other.entries.reverse.Perm other.entries ∧
      r.merge other
        = ⟨other.entries.reverse.foldl (fun entries e => Registry.place e.1 e.2 entries) r.entries⟩ := by
  intro r other
  obtain ⟨-, -, hbuild, -, -, hmerge⟩ := latest_registration_counts mergedCalls false
  have hperm : other.entries.reverse.Perm other.entries := List.reverse_perm _
  exact ⟨(hbuild "DUMMY" _).trans rfl, (hbuild "Late" _).trans rfl, rfl, hperm, hmerge true _ hperm⟩

end Autosampler

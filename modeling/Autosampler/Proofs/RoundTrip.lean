import Autosampler.Proofs.Printing
import Autosampler.Proofs.ReadBack
import Autosampler.Wire.Request

/-!
# What is sent is what is read

Requests and responses survive the way over the wire.  A record is written member by member, some
of them left out, and read into a draft in the order in which its members come.  So one lemma about
the draft serves every record, and a record type only says what each member puts into it.

* `Json.readString_print`, `Json.readUnsigned_print`, `Json.readOptional_print`,
  `Json.readList_print`, `Json.readNamed_print` — the simple types;
* `Json.Record.Fills`, `Json.Record.read_present` — records;
* `RobotStatus.readsAs_toJson`, `Snapshot.readsAs_toJson`, `Response.readsAs_toJson` — responses
  and what is in them;
* `Request.ofText_toText` — requests;
* `wire_round_trip` — what is sent is one line, and the line is read as what was sent.
-/

namespace Autosampler

namespace Json

variable {α δ : Type} {depth : Nat}

/-! ### Simple types -/

theorem readString_print (s : String) : ReadsAs (readString depth) (Value.text s).print s := by
  intro rest _
  show (readText (s.toList.flatMap escaped ++ ['"'] ++ rest)).map _ = _
  rw [List.append_assoc, List.singleton_append, readText_flatMap_escaped]
  show Except.ok (String.ofList s.toList, rest) = _
  rw [String.ofList_toList]

theorem readBool_print (b : Bool) : ReadsAs (readBool depth) (Value.bool b).print b := by
  cases b <;> exact fun _ _ => rfl

theorem readUnsigned_print {n bound : Nat} (hn : n < bound) (hb : bound ≤ Text.word64)
    (expected : String) :
    ReadsAs (readUnsigned bound expected depth) (Value.natural n).print n := by
  intro rest hrest
  have hnumber := readNumber_natural (Nat.lt_of_lt_of_le hn hb) hrest
  obtain ⟨d, ds, hdigits, hd, -⟩ := Text.head_decimalDigits n
  show readUnsigned bound expected depth (Text.decimalDigits n ++ rest) = _
  rw [hdigits, List.cons_append] at hnumber ⊢
  unfold readUnsigned
  rw [skipBlank_cons (isBlank_of_isDigit hd)]
  split
  · exact absurd (List.cons.inj ‹_›).1 (ne_of_isDigit hd (by decide))
  · cases ‹_›
  · rename_i heq
    cases heq
    rw [if_pos hd, hnumber]
    dsimp only
    rw [if_pos hn]

/-- The printed value cannot be taken for `null`. -/
def NotNull (v : Value) : Prop := ∃ c rest, v.print = c :: rest ∧ isBlank c = false ∧ c ≠ 'n'

theorem notNull_text (s : String) : NotNull (.text s) := ⟨_, _, rfl, by decide⟩

theorem notNull_object (members : List (String × Value)) : NotNull (.object members) :=
  ⟨_, _, rfl, by decide⟩

theorem readOptional_some {reader : Reader α} {v : Value} {a : α} (hv : NotNull v)
    (h : ReadsAs (reader depth) v.print a) :
    ReadsAs (readOptional reader depth) v.print (some a) := by
  intro rest hrest
  have hread := h rest hrest
  obtain ⟨c, tail, hprint, hblank, hn⟩ := hv
  rw [hprint, List.cons_append] at hread ⊢
  unfold readOptional
  rw [skipBlank_cons hblank]
  split
  · cases ‹_›
  · exact absurd (List.cons.inj ‹_›).1 hn
  · rw [hread]
    rfl

theorem readOptional_print {reader : Reader α} {write : α → Value} {o : Option α}
    (h : ∀ a, o = some a → NotNull (write a) ∧ ReadsAs (reader depth) (write a).print a) :
    ReadsAs (readOptional reader depth) (Value.optional write o).print o := by
  cases o with
  | none => exact fun _ _ => rfl
  | some a => exact readOptional_some (h a rfl).1 (h a rfl).2

theorem readList_print {reader : Reader α} {write : α → Value} {as : List α} (hdepth : 1 < depth)
    (h : ∀ a ∈ as, Opens (write a).print ∧ ReadsAs (reader (depth - 1)) (write a).print a) :
    ReadsAs (readList reader depth) (Value.list (as.map write)).print as := by
  intro rest _
  rw [Value.print, Value.printItems_eq, List.map_map, List.cons_append, List.append_assoc,
    List.singleton_append]
  show (if depth ≤ 1 then _ else readItems (reader (depth - 1)) _ true _) = _
  rw [if_neg (Nat.not_le_of_gt hdepth)]
  exact readItems_print h (length_lt_of_commaSeparated _ _ _) rest

/-- A value of a finite type is known by its name. -/
theorem readNamed_print {name : α → String} {values : List α} {a : α}
    (h : values.find? (fun b => name b == name a) = some a) :
    ReadsAs (readNamed name values depth) (Value.text (name a)).print a := by
  intro rest _
  have hfound : findVariant (values.map fun b => Variant.plain (name b) b) (name a)
      = .ok (Variant.plain (name a) a) := by
    have hmap : (values.map fun b => Variant.plain (name b) b).find? (fun v => v.name == name a)
        = some (Variant.plain (name a) a) := by
      rw [List.find?_map]
      exact congrArg (Option.map fun b => Variant.plain (name b) b) h
    rw [findVariant, hmap]
  rw [Value.print, printText, List.cons_append, List.append_assoc, List.singleton_append]
  simp only [readNamed, readVariant, skipBlank_quote, readText_flatMap_escaped,
    String.ofList_toList, hfound]
  rfl

/-! ### Records -/

namespace Record

/-- Reading members with these values one by one turns one draft into another.  A member without a
value is not written. -/
inductive Fills (members : List (Member δ)) (depth : Nat) :
    List (String × Option Value) → δ → δ → Prop where
  | nil (draft : δ) : Fills members depth [] draft draft
  | absent {name : String} {written : List (String × Option Value)} {draft full : δ} :
      Fills members depth written draft full →
      Fills members depth ((name, none) :: written) draft full
  | present {name : String} {v : Value} {written : List (String × Option Value)} {m : Member δ}
      {draft fuller full : δ} :
      members.find? (fun m => m.name.toList == name.toList) = some m →
      m.filled draft = false →
      ReadsAs (m.read draft depth) v.print fuller →
      Fills members depth written fuller full →
      Fills members depth ((name, some v) :: written) draft full

variable {members : List (Member δ)} {written : List (String × Option Value)} {draft full : δ}

/-- A member that is kept as it is read. -/
theorem readsAs_kept {reader : Reader α} {part : List Char} {a : α} (name : String)
    (get : δ → Option α) (set : δ → α → δ) (h : ReadsAs (reader depth) part a) :
    ReadsAs ((Member.kept name reader get set).read draft depth) part (set draft a) := by
  intro rest hrest
  show (reader depth (part ++ rest)).map _ = _
  rw [h rest hrest]
  rfl

/-- A kept member that is written only if it has a value. -/
theorem Fills.optional {name : String} {reader : Reader α} {get : δ → Option (Option α)}
    {set : δ → Option α → δ} {write : α → Value} {o : Option α} (fuller : δ)
    (hm : members.find? (fun m => m.name.toList == name.toList)
      = some (Member.kept name (readOptional reader) get set).dispensable)
    (hfree : (get draft).isSome = false)
    (hfuller : fuller = o.elim draft fun a => set draft (some a))
    (hread : ∀ a, o = some a → NotNull (write a) ∧ ReadsAs (reader depth) (write a).print a)
    (h : Fills members depth written fuller full) :
    Fills members depth ((name, o.map write) :: written) draft full := by
  subst hfuller
  cases o with
  | none => exact .absent h
  | some a =>
    obtain ⟨hnull, hreads⟩ := hread a rfl
    exact .present hm hfree (readsAs_kept name get set (readOptional_some hnull hreads)) h

/-- The texts of the members that are written. -/
def parts (written : List (String × Option Value)) : List (List Char) :=
  Value.printMembers (written.filterMap fun m => m.2.map fun v => (m.1, v))

theorem parts_present (name : String) (v : Value) :
    parts ((name, some v) :: written) = printMember name v.print :: parts written := rfl

/-- The members behind the first one, each after its comma. -/
theorem readObject_rest {bound : Nat} (h : Fills members depth written draft full)
    (hb : (parts written).length < bound) (rest : List Char) :
    readObject members depth bound false draft
        ((parts written).flatMap (',' :: ·) ++ '\x7d' :: rest)
      = .ok (full, rest) := by
  induction h generalizing bound with
  | nil draft =>
    obtain ⟨left, rfl, -⟩ := exists_pred hb
    rfl
  | absent h ih => exact ih hb
  | present hm hfree hreads h ih =>
    rw [parts_present] at hb ⊢
    obtain ⟨left, rfl, hleft⟩ := exists_pred hb
    rw [List.flatMap_cons, List.append_assoc, List.cons_append]
    simp only [readObject, nextMember_comma, readText_afterQuote, hm, hfree, readColon_colon,
      hreads _ (stops_rest (stops_brace rest) _), ih hleft, Bool.false_eq_true, if_false]

/-- The members of a record, up to its closing brace. -/
theorem readObject_print {bound : Nat} (h : Fills members depth written draft full)
    (hb : (parts written).length < bound) (rest : List Char) :
    readObject members depth bound true draft (commaSeparated (parts written) ++ '\x7d' :: rest)
      = .ok (full, rest) := by
  induction h with
  | nil draft =>
    obtain ⟨left, rfl, -⟩ := exists_pred hb
    rfl
  | absent h ih => exact ih hb
  | present hm hfree hreads h _ =>
    rw [parts_present] at hb ⊢
    obtain ⟨left, rfl, hleft⟩ := exists_pred hb
    rw [commaSeparated_cons, List.append_assoc]
    simp only [readObject, nextMember_first, readText_afterQuote, hm, hfree, readColon_colon,
      hreads _ (stops_rest (stops_brace rest) _), readObject_rest h hleft, Bool.false_eq_true,
      if_false]

/-- A record is read from its members. -/
theorem read_present {r : Record δ α} {a : α} (hdepth : 1 < depth)
    (h : Fills r.members (depth - 1) written r.blank full) (hfinish : r.finish full = .ok a) :
    ReadsAs (r.read depth) (Value.present written).print a := by
  intro rest _
  show r.read depth ('\x7b' :: (commaSeparated (parts written) ++ ['\x7d'] ++ rest)) = _
  rw [List.append_assoc, List.singleton_append]
  simp only [read, skipBlank_brace, if_neg (Nat.not_le_of_gt hdepth),
    readObject_print h (length_lt_of_commaSeparated (parts written) '\x7d' rest), hfinish]

end Record

end Json

open Json (NotNull ReadsAs Value)

/-! ### Responses -/

variable {depth : Nat}

theorem State.readsAs_toJson (s : State) : ReadsAs (State.read depth) s.toJson.print s :=
  Json.readNamed_print (by cases s <;> decide)

theorem Status.readsAs_toJson (s : Status) : ReadsAs (Status.read depth) s.toJson.print s :=
  Json.readNamed_print (by cases s <;> decide)

theorem Mode.readsAs_toJson (m : Mode) : ReadsAs (Mode.read depth) m.toJson.print m :=
  Json.readNamed_print (by cases m <;> decide)

theorem Safety.readsAs_toJson (s : Safety) : ReadsAs (Safety.read depth) s.toJson.print s :=
  Json.readNamed_print (by cases s <;> decide)

open Json.Record (readsAs_kept)

theorem getD_map_some {α : Type} (o : Option α) : (o.map some).getD none = o := by
  cases o <;> rfl

/-- The draft that a report is read into. -/
def RobotStatus.draft (s : RobotStatus) : RobotStatus.Draft :=
  { mode := some s.mode, safety := some s.safety, remoteControl := some s.remoteControl,
    programRunning := some s.programRunning, loadedProgram := s.loadedProgram.map some }

theorem RobotStatus.finish_draft (s : RobotStatus) : RobotStatus.record.finish s.draft = .ok s := by
  show Except.ok { s with loadedProgram := (s.loadedProgram.map some).getD none } = Except.ok s
  rw [getD_map_some]

theorem RobotStatus.readsAs_toJson (s : RobotStatus) (hdepth : 1 < depth) :
    ReadsAs (RobotStatus.read depth) s.toJson.print s := by
  refine Json.Record.read_present hdepth ?_ s.finish_draft
  refine .present rfl rfl (readsAs_kept _ _ _ s.mode.readsAs_toJson) ?_
  refine .present rfl rfl (readsAs_kept _ _ _ s.safety.readsAs_toJson) ?_
  refine .present rfl rfl (readsAs_kept _ _ _ (Json.readBool_print s.remoteControl)) ?_
  refine .present rfl rfl (readsAs_kept _ _ _ (Json.readBool_print s.programRunning)) ?_
  refine .optional s.draft rfl rfl ?_ (fun text _ => ?_) (.nil _)
  · cases h : s.loadedProgram <;> simp only [draft, h] <;> rfl
  · exact ⟨Json.notNull_text text, Json.readString_print text⟩

/-- The draft that a snapshot is read into. -/
def Snapshot.draft (s : Snapshot) : Snapshot.Draft :=
  { state := some s.state, label := some s.label, status := some s.status,
    statusCode := some s.statusCode.toNat, tag := s.tag.map some,
    mountedSample := s.mountedSample.map some, samples := some s.samples,
    transitionCount := some s.transitionCount.toNat, driver := s.driver.map some }

theorem Snapshot.finish_draft (s : Snapshot) : Snapshot.record.finish s.draft = .ok s := by
  show Except.ok
    { s with
      statusCode := UInt16.ofNat s.statusCode.toNat, tag := (s.tag.map some).getD none,
      mountedSample := (s.mountedSample.map some).getD none,
      transitionCount := UInt64.ofNat s.transitionCount.toNat,
      driver := (s.driver.map some).getD none } = Except.ok s
  rw [UInt16.ofNat_toNat, UInt64.ofNat_toNat, getD_map_some, getD_map_some, getD_map_some]

theorem Snapshot.readsAs_toJson (s : Snapshot) (hdepth : 2 < depth) :
    ReadsAs (Snapshot.read depth) s.toJson.print s := by
  have htext (text : String) :
      NotNull (.text text)
        ∧ ReadsAs (Json.readString (depth - 1)) (Json.Value.text text).print text :=
    ⟨Json.notNull_text text, Json.readString_print text⟩
  have hsamples (sample : String) (_ : sample ∈ s.samples) :
      Json.Opens (Json.Value.text sample).print
        ∧ ReadsAs (Json.readString (depth - 1 - 1)) (Json.Value.text sample).print sample :=
    ⟨Json.Value.opens_print trivial, Json.readString_print sample⟩
  refine Json.Record.read_present (by omega) ?_ s.finish_draft
  refine .present rfl rfl (readsAs_kept _ _ _ s.state.readsAs_toJson) ?_
  refine .present rfl rfl (readsAs_kept _ _ _ (Json.readString_print s.label)) ?_
  refine .present rfl rfl (readsAs_kept _ _ _ s.status.readsAs_toJson) ?_
  refine .present rfl rfl (readsAs_kept _ _ _
    (Json.readUnsigned_print s.statusCode.toNat_lt (by decide) "u16")) ?_
  -- where a member may be left out, the draft behind it is the last one without what comes later
  refine .optional
    { s.draft with mountedSample := none, samples := none, transitionCount := none, driver := none }
    rfl rfl ?_ (fun tag _ => htext tag) ?_
  · cases h : s.tag <;> simp only [draft, h] <;> rfl
  refine .optional { s.draft with samples := none, transitionCount := none, driver := none }
    rfl rfl ?_ (fun sample _ => htext sample) ?_
  · cases h : s.mountedSample <;> simp only [draft, h] <;> rfl
  refine .present rfl rfl (readsAs_kept _ _ _ (Json.readList_print (by omega) hsamples)) ?_
  refine .present rfl rfl (readsAs_kept _ _ _
    (Json.readUnsigned_print s.transitionCount.toNat_lt (Nat.le_refl _) "u64")) ?_
  refine .optional s.draft rfl rfl ?_ (fun report _ => ?_) (.nil _)
  · cases h : s.driver <;> simp only [draft, h] <;> rfl
  · exact ⟨Json.notNull_object _, report.readsAs_toJson (by omega)⟩

/-- The draft that a response is read into. -/
def Response.draft (r : Response) : Response.Draft :=
  { success := some r.success, state := some r.state, error := some r.error }

theorem Response.readsAs_toJson (r : Response) :
    ReadsAs (Response.read Json.fullDepth) r.toJson.print r := by
  have hstate (s : Snapshot) (_ : r.state = some s) :
      NotNull s.toJson ∧ ReadsAs (Snapshot.read (Json.fullDepth - 1)) s.toJson.print s :=
    ⟨Json.notNull_object _, s.readsAs_toJson (by decide)⟩
  have herror (reason : String) (_ : r.error = some reason) :
      NotNull (.text reason)
        ∧ ReadsAs (Json.readString (Json.fullDepth - 1)) (Json.Value.text reason).print reason :=
    ⟨Json.notNull_text reason, Json.readString_print reason⟩
  have hwritten : r.toJson = .present
      [("success", some (.bool r.success)), ("state", some (.optional Snapshot.toJson r.state)),
       ("error", some (.optional .text r.error))] := rfl
  rw [hwritten]
  refine Json.Record.read_present (show 1 < Json.fullDepth by decide) ?_
    (show Response.record.finish r.draft = .ok r from rfl)
  refine .present rfl rfl (readsAs_kept _ _ _ (Json.readBool_print r.success)) ?_
  refine .present rfl rfl (readsAs_kept _ _ _ (Json.readOptional_print hstate)) ?_
  refine .present rfl rfl (readsAs_kept _ _ _ (Json.readOptional_print herror)) ?_
  exact .nil _

/-! ### Requests -/

namespace Request

theorem plain_toJson (r : Request) : r.toJson.Plain := by
  obtain ⟨_ | token, command⟩ := r <;> cases command <;> exact ⟨trivial, by repeat constructor⟩

theorem height_toJson (r : Request) : r.toJson.height = 1 := by
  obtain ⟨_ | token, command⟩ := r <;> cases command <;> rfl

theorem ofValue?_toJson (r : Request) : ofValue? r.toJson = some r := by
  obtain ⟨_ | token, command⟩ := r <;> cases command <;> rfl

theorem ofText_toText (r : Request) : ofText r.toJson.toText = .ok r := by
  have hvalue : Value.ofText r.toJson.toText = .ok r.toJson :=
    Value.ofText_toText r.plain_toJson (by rw [height_toJson]; decide)
  have hrequest : (Value.ofText r.toJson.toText).toOption.bind ofValue? = some r := by
    rw [hvalue]
    exact ofValue?_toJson r
  rw [ofText, hrequest]

end Request

/-! ### The wire -/

/-- Every request and every response is one line, and the line is read as what was sent. -/
theorem wire_round_trip :
    (∀ r : Request, Request.ofText r.toJson.toText = .ok r ∧ '\n' ∉ r.toJson.toText.toList)
      ∧ ∀ r : Response,
        Json.readAll Response.read r.toJson.toText = .ok r ∧ '\n' ∉ r.toJson.toText.toList := by
  have hline (v : Value) : '\n' ∉ v.toText.toList := by
    rw [Value.toText, String.toList_ofList]
    exact v.newline_not_mem_print
  constructor
  · exact fun r => ⟨r.ofText_toText, hline r.toJson⟩
  · exact fun r => ⟨Json.readAll_toText r.readsAs_toJson, hline r.toJson⟩

end Autosampler

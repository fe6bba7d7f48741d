import Autosampler.Proofs.Numerals
import Autosampler.Robot.Message

/-!
# The grammar of the robot's lines

Every text is a line.  The grammar says which lines are messages and what they carry; a second
table says what is wrong with the lines that come near to one.  What is in neither is unknown.  A
line that starts like a probe, or whose text before the first colon is `QR`, `Slot` or `ok`, comes
near to one.

* `Message.SlotNumber`, `Message.FlagValue`, `Message.Probes` — slot numbers, presence flags and
  probes;
* `Message.Spoken` — the lines that are messages;
* `Message.Faulty` — the lines that have a fault of their own;
* `Message.ofTrimmed_of_spoken`, `Message.ofTrimmed_of_faulty` — the lines of the tables;
* `Message.Known`, `Message.ofTrimmed_of_not_known` — all other lines;
* `Message.lines_read_exactly` — the messages and the faults of all lines.
-/

namespace Autosampler

namespace Message

/-! ### The parts of a line -/

/-- A text that is a slot number: a numeral of a positive 64-bit number between blanks. -/
def SlotNumber (value : List Char) (n : Nat) : Prop :=
  Text.Numeral (Text.trim value) n ∧ 1 ≤ n ∧ n ≤ 2 ^ 64 - 1

/-- A text that is a presence flag: its digit between blanks. -/
def FlagValue (value : List Char) (present : Bool) : Prop :=
  Text.trim value = [if present then '1' else '0']

/-- What follows the head of a probe asks for a key: blanks, and then the key without any. -/
def Probes (rest key : List Char) : Prop :=
  key ≠ [] ∧ (∀ c ∈ key, Text.isBlank c = false) ∧
    ∃ gap, (∀ c ∈ gap, Text.isBlank c = true) ∧ rest = gap ++ key

/-! ### The two tables -/

/-- The lines that are messages, without blanks at their ends. -/
inductive Spoken : List Char → Message → Prop
  | ok : Spoken "ok".toList .ok
  | error : Spoken "error".toList (.error none)
  | complaint (text : List Char) :
      Spoken ("error:".toList ++ text) (.error (some (String.ofList text)))
  | probe {rest key : List Char} (asked : Probes rest key) :
      Spoken ("GET ".toList ++ rest) (.get (String.ofList key))
  | code {value : List Char} {n : Nat} (single : ':' ∉ value) (number : SlotNumber value n) :
      Spoken ("QR:".toList ++ value) (.qr n)
  | report {value flag : List Char} {n : Nat} {present : Bool} (left : ':' ∉ value)
      (right : ':' ∉ flag) (number : SlotNumber value n) (said : FlagValue flag present) :
      Spoken ("Slot:".toList ++ (value ++ ':' :: flag)) (.slot n present)

/-- The lines with a fault of their own, without blanks at their ends.  A slot number is looked at
before a flag, and both only if the colons are right. -/
inductive Faulty : List Char → LineFault → Prop
  | empty : Faulty [] .empty
  | probe {rest : List Char} (bad : ∀ key, ¬Probes rest key) :
      Faulty ("GET ".toList ++ rest) (.malformed "GET" (String.ofList ("GET ".toList ++ rest)))
  | codeColons {rest : List Char} (more : ':' ∈ rest) :
      Faulty ("QR:".toList ++ rest) (.malformed "QR" (String.ofList ("QR:".toList ++ rest)))
  | reportColons {rest : List Char} (other : rest.count ':' ≠ 1) :
      Faulty ("Slot:".toList ++ rest) (.malformed "Slot" (String.ofList ("Slot:".toList ++ rest)))
  | okColon (rest : List Char) :
      Faulty ("ok:".toList ++ rest) (.malformed "ok" (String.ofList ("ok:".toList ++ rest)))
  | codeNumber {value : List Char} (single : ':' ∉ value) (bad : ∀ n, ¬SlotNumber value n) :
      Faulty ("QR:".toList ++ value) (.invalidSlot (String.ofList value))
  | reportNumber {value flag : List Char} (left : ':' ∉ value) (right : ':' ∉ flag)
      (bad : ∀ n, ¬SlotNumber value n) :
      Faulty ("Slot:".toList ++ (value ++ ':' :: flag)) (.invalidSlot (String.ofList value))
  | reportFlag {value flag : List Char} {n : Nat} (left : ':' ∉ value) (right : ':' ∉ flag)
      (number : SlotNumber value n) (bad : ∀ present, ¬FlagValue flag present) :
      Faulty ("Slot:".toList ++ (value ++ ':' :: flag))
        (.invalidFlag (String.ofList (Text.trim flag)))

variable {line rest value flag head key : List Char} {n : Nat} {present : Bool} {message : Message}
  {fault : LineFault}

/-! ### Reading the parts -/

theorem readSlot_of_slotNumber (h : SlotNumber value n) : readSlot value = .ok n := by
  obtain ⟨hnumeral, hpos, hfits⟩ := h
  have hword : Text.readWord? Text.word64 (Text.trim value) = some n :=
    Text.readWord?_eq_some_iff.mpr ⟨hnumeral, Nat.lt_of_le_of_lt hfits (by decide)⟩
  obtain ⟨m, rfl⟩ := Nat.exists_eq_add_of_le' hpos
  rw [readSlot, hword]

/-- A text that is no slot number is complained about, blanks included. -/
theorem readSlot_of_not (h : ∀ n, ¬SlotNumber value n) :
    readSlot value = .error (.invalidSlot (String.ofList value)) := by
  unfold readSlot
  split
  · rename_i n hword
    obtain ⟨hnumeral, hlt⟩ := Text.readWord?_eq_some_iff.mp hword
    exact absurd ⟨hnumeral, Nat.le_add_left 1 n, Nat.le_sub_one_of_lt hlt⟩ (h (n + 1))
  · rfl

theorem readFlag_of_flagValue (h : FlagValue flag present) : readFlag flag = .ok present := by
  unfold FlagValue at h
  rw [readFlag, h]
  cases present <;> rfl

/-- A text that is no flag is complained about, without the blanks. -/
theorem readFlag_of_not (h : ∀ present, ¬FlagValue flag present) :
    readFlag flag = .error (.invalidFlag (String.ofList (Text.trim flag))) := by
  unfold readFlag
  split
  · rename_i hzero
    exact absurd hzero (h false)
  · rename_i hone
    exact absurd hone (h true)
  · rfl

/-- On a line without blanks at its end, the key is what trimming leaves. -/
theorem probes_iff (hline : Text.IsTrimmed ("GET ".toList ++ rest)) :
    Probes rest key ↔ Text.trim rest = key ∧ key ≠ [] ∧ ∀ c ∈ key, Text.isBlank c = false := by
  constructor
  · rintro ⟨hne, hsolid, gap, hgap, rfl⟩
    exact ⟨Text.trim_eq_iff.mpr ⟨Text.isTrimmed_of_solid hsolid, gap, [], by rw [List.append_nil],
      hgap, nofun⟩, hne, hsolid⟩
  · rintro ⟨htrim, hne, hsolid⟩
    obtain ⟨-, gap, after, rfl, hgap, hafter⟩ := Text.trim_eq_iff.mp htrim
    refine ⟨hne, hsolid, gap, hgap, ?_⟩
    -- a blank after the key would be the last character of the line
    cases hlast : after.getLast? with
    | none => rw [List.getLast?_eq_none_iff.mp hlast, List.append_nil]
    | some c =>
      have hend : ("GET ".toList ++ (gap ++ (key ++ after))).getLast? = some c := by
        rw [List.getLast?_append, List.getLast?_append, List.getLast?_append, hlast]
        rfl
      have hblank := hafter c (List.mem_of_getLast? hlast)
      rw [hline.last c hend] at hblank
      cases hblank

/-! ### Reading a line -/

theorem splitColon_append (h : ':' ∉ head) (rest : List Char) :
    splitColon (head ++ ':' :: rest) = (head, some rest) := by
  have hhead : ∀ c ∈ head, decide (c ≠ ':') = true := by
    intro c hc
    exact decide_eq_true fun heq => h (heq ▸ hc)
  unfold splitColon
  rw [List.dropWhile_append_of_pos hhead, List.takeWhile_append_of_pos hhead]
  simp

theorem splitColon_of_not_mem (h : ':' ∉ line) : splitColon line = (line, none) := by
  have hline : ∀ c ∈ line, decide (c ≠ ':') = true := by
    intro c hc
    exact decide_eq_true fun heq => h (heq ▸ hc)
  have hdrop : line.dropWhile (· ≠ ':') = [] := by
    rw [← List.append_nil line, List.dropWhile_append_of_pos hline, List.dropWhile_nil]
  rw [splitColon, hdrop]

theorem ofTrimmed_probe (rest : List Char) :
    ofTrimmed ("GET ".toList ++ rest)
      = if Text.trim rest = [] || (Text.trim rest).any Text.isBlank then
          .error (.malformed "GET" (String.ofList ("GET ".toList ++ rest)))
        else .ok (.get (String.ofList (Text.trim rest))) := rfl

theorem ofTrimmed_complaint (text : List Char) :
    ofTrimmed ("error:".toList ++ text) = .ok (.error (some (String.ofList text))) := rfl

theorem ofTrimmed_code (rest : List Char) :
    ofTrimmed ("QR:".toList ++ rest)
      = if rest.contains ':' then .error (.malformed "QR" (String.ofList ("QR:".toList ++ rest)))
        else (readSlot rest).map .qr := rfl

theorem ofTrimmed_report (rest : List Char) :
    ofTrimmed ("Slot:".toList ++ rest)
      = match splitColon rest with
        | (_, none) => .error (.malformed "Slot" (String.ofList ("Slot:".toList ++ rest)))
        | (number, some flag) =>
          if flag.contains ':' then
            .error (.malformed "Slot" (String.ofList ("Slot:".toList ++ rest)))
          else
            match readSlot number with
            | .error fault => .error fault
            | .ok n => (readFlag flag).map (.slot n) := rfl

theorem ofTrimmed_okColon (rest : List Char) :
    ofTrimmed ("ok:".toList ++ rest)
      = .error (.malformed "ok" (String.ofList ("ok:".toList ++ rest))) := rfl

/-- A report with the right colons: first the number, then the flag. -/
theorem ofTrimmed_report_colon (hleft : ':' ∉ value) (hright : ':' ∉ flag) :
    ofTrimmed ("Slot:".toList ++ (value ++ ':' :: flag))
      = match readSlot value with
        | .error fault => .error fault
        | .ok n => (readFlag flag).map (.slot n) := by
  have hcontains : flag.contains ':' = false := by simpa using hright
  rw [ofTrimmed_report, splitColon_append hleft]
  simp only [hcontains, Bool.false_eq_true, if_false]

/-! ### The tables are read -/

/-- A message of the grammar is read as it is. -/
theorem ofTrimmed_of_spoken (hline : Text.IsTrimmed line) (h : Spoken line message) :
    ofTrimmed line = .ok message := by
  cases h with
  | ok => rfl
  | error => rfl
  | complaint text => exact ofTrimmed_complaint text
  | @probe rest key asked =>
    obtain ⟨htrim, hne, hsolid⟩ := (probes_iff hline).mp asked
    have hany : key.any Text.isBlank = false :=
      List.any_eq_false.mpr fun c hc => by simp [hsolid c hc]
    rw [ofTrimmed_probe, htrim, hany, Bool.or_false, if_neg (by simpa using hne)]
  | code single number =>
    rw [ofTrimmed_code, if_neg (by simpa using single), readSlot_of_slotNumber number]
    rfl
  | report left right number said =>
    rw [ofTrimmed_report_colon left right, readSlot_of_slotNumber number,
      readFlag_of_flagValue said]
    rfl

/-- A fault of the second table is found. -/
theorem ofTrimmed_of_faulty (hline : Text.IsTrimmed line) (h : Faulty line fault) :
    ofTrimmed line = .error fault := by
  cases h with
  | empty => rfl
  | @probe rest bad =>
    rw [ofTrimmed_probe, if_pos]
    by_contra hgood
    obtain ⟨hne, hsolid⟩ : Text.trim rest ≠ [] ∧ ∀ c ∈ Text.trim rest, Text.isBlank c = false := by
      simpa using hgood
    exact bad _ ((probes_iff hline).mpr ⟨rfl, hne, hsolid⟩)
  | codeColons more => rw [ofTrimmed_code, if_pos (by simpa using more)]
  | @reportColons rest other =>
    rw [ofTrimmed_report]
    by_cases hcolon : ':' ∈ rest
    · obtain ⟨value, flag, rfl, hnot⟩ := List.eq_append_cons_of_mem hcolon
      have hmore : ':' ∈ flag := by
        by_contra hflag
        rw [List.count_append, List.count_cons_self, List.count_eq_zero.mpr hnot,
          List.count_eq_zero.mpr hflag] at other
        exact other rfl
      rw [splitColon_append hnot]
      exact if_pos (by simpa using hmore)
    · rw [splitColon_of_not_mem hcolon]
  | okColon rest => exact ofTrimmed_okColon rest
  | codeNumber single bad =>
    rw [ofTrimmed_code, if_neg (by simpa using single), readSlot_of_not bad]
    rfl
  | reportNumber left right bad => rw [ofTrimmed_report_colon left right, readSlot_of_not bad]
  | reportFlag left right number bad =>
    rw [ofTrimmed_report_colon left right, readSlot_of_slotNumber number, readFlag_of_not bad]
    rfl

/-! ### Lines outside of the tables -/

/-- A line that is in one of the tables. -/
def Known (line : List Char) : Prop := (∃ message, Spoken line message) ∨ ∃ fault, Faulty line fault

theorem known_probe (rest : List Char) : Known ("GET ".toList ++ rest) := by
  by_cases h : ∃ key, Probes rest key
  · obtain ⟨key, hkey⟩ := h
    exact Or.inl ⟨_, .probe hkey⟩
  · exact Or.inr ⟨_, .probe fun key hkey => h ⟨key, hkey⟩⟩

theorem known_code (rest : List Char) : Known ("QR:".toList ++ rest) := by
  by_cases hcolon : ':' ∈ rest
  · exact Or.inr ⟨_, .codeColons hcolon⟩
  by_cases h : ∃ n, SlotNumber rest n
  · obtain ⟨n, hn⟩ := h
    exact Or.inl ⟨_, .code hcolon hn⟩
  · exact Or.inr ⟨_, .codeNumber hcolon fun n hn => h ⟨n, hn⟩⟩

theorem known_report (rest : List Char) : Known ("Slot:".toList ++ rest) := by
  by_cases hcount : rest.count ':' = 1
  · obtain ⟨value, flag, rfl, hleft⟩ :=
      List.eq_append_cons_of_mem (List.count_pos_iff.mp (hcount ▸ Nat.one_pos))
    have hright : ':' ∉ flag := by
      rw [List.count_append, List.count_cons_self, List.count_eq_zero.mpr hleft] at hcount
      exact List.count_eq_zero.mp (by omega)
    by_cases h : ∃ n, SlotNumber value n
    · obtain ⟨n, hn⟩ := h
      by_cases h : ∃ present, FlagValue flag present
      · obtain ⟨present, hflag⟩ := h
        exact Or.inl ⟨_, .report hleft hright hn hflag⟩
      · exact Or.inr ⟨_, .reportFlag hleft hright hn fun present hflag => h ⟨present, hflag⟩⟩
    · exact Or.inr ⟨_, .reportNumber hleft hright fun n hn => h ⟨n, hn⟩⟩
  · exact Or.inr ⟨_, .reportColons hcount⟩

/-- A line with the head of a message before its first colon is in the tables. -/
theorem known_headed (hhead : head ∈ ["error", "QR", "Slot", "ok"].map String.toList)
    (rest : List Char) : Known (head ++ ':' :: rest) := by
  simp only [List.map_cons, List.map_nil, List.mem_cons, List.not_mem_nil, or_false] at hhead
  rcases hhead with rfl | rfl | rfl | rfl
  · exact Or.inl ⟨_, .complaint rest⟩
  · exact known_code rest
  · exact known_report rest
  · exact Or.inr ⟨_, .okColon rest⟩

/-- A line outside of the tables is unknown. -/
theorem ofTrimmed_of_not_known (h : ¬Known line) :
    ofTrimmed line = .error (.unknown (String.ofList line)) := by
  have hempty : line ≠ [] := by
    rintro rfl
    exact h (Or.inr ⟨_, .empty⟩)
  have hprobe : ¬probeHead.isPrefixOf line = true := by
    intro hprefix
    obtain ⟨rest, rfl⟩ := List.isPrefixOf_iff_prefix.mp hprefix
    exact h (known_probe rest)
  unfold ofTrimmed
  rw [if_neg hempty, if_neg hprobe]
  by_cases hcolon : ':' ∈ line
  · obtain ⟨head, rest, rfl, hnot⟩ := List.eq_append_cons_of_mem hcolon
    have hother : ∀ name ∈ ["error", "QR", "Slot", "ok"], head ≠ name.toList := by
      rintro name hname rfl
      exact h (known_headed (List.mem_map_of_mem hname) rest)
    simp only [List.forall_mem_cons, List.not_mem_nil, false_imp_iff, implies_true,
      and_true] at hother
    obtain ⟨herror, hcode, hreport, hok⟩ := hother
    simp only [splitColon_append hnot, if_neg herror, if_neg hcode, if_neg hreport, if_neg hok]
  · have hok : line ≠ "ok".toList := by
      rintro rfl
      exact h (Or.inl ⟨_, .ok⟩)
    have herror : line ≠ "error".toList := by
      rintro rfl
      exact h (Or.inl ⟨_, .error⟩)
    simp only [splitColon_of_not_mem hcolon, if_neg hok, if_neg herror]

/-- Every line has its message, its fault, or it is unknown. -/
theorem ofTrimmed_cases (hline : Text.IsTrimmed line) :
    (∃ message, Spoken line message ∧ ofTrimmed line = .ok message) ∨
      (∃ fault, Faulty line fault ∧ ofTrimmed line = .error fault) ∨
      ¬Known line ∧ ofTrimmed line = .error (.unknown (String.ofList line)) := by
  by_cases h : Known line
  · rcases h with ⟨message, hspoken⟩ | ⟨fault, hfaulty⟩
    · exact Or.inl ⟨message, hspoken, ofTrimmed_of_spoken hline hspoken⟩
    · exact Or.inr (Or.inl ⟨fault, hfaulty, ofTrimmed_of_faulty hline hfaulty⟩)
  · exact Or.inr (Or.inr ⟨h, ofTrimmed_of_not_known h⟩)

/-! ### All lines -/

/-- **Lines are read exactly as the grammar says.**  Blanks around a line do not count.  A message
is read from the lines of the grammar and from no others; the faults of the second table are found
in its lines and in no others; and every line that is in neither table is unknown, as the lines `QR`
and `Slot` without any colon are. -/
theorem lines_read_exactly (text : String) :
    (∀ message, ofLine text = .ok message ↔ Spoken (Text.trim text.toList) message) ∧
      ∀ fault, ofLine text = .error fault ↔
        Faulty (Text.trim text.toList) fault ∨
          fault = .unknown (Text.trimmed text) ∧
            (∀ message, ¬Spoken (Text.trim text.toList) message) ∧
            ∀ other, ¬Faulty (Text.trim text.toList) other := by
  have hline : Text.IsTrimmed (Text.trim text.toList) := Text.isTrimmed_trim text.toList
  refine ⟨fun message => ⟨fun hread => ?_, ofTrimmed_of_spoken hline⟩,
    fun fault => ⟨fun hread => ?_, ?_⟩⟩
  · obtain ⟨found, hspoken, hfound⟩ | ⟨fault, -, hfault⟩ | ⟨-, hunknown⟩ := ofTrimmed_cases hline
    · cases hfound.symm.trans hread
      exact hspoken
    · cases hfault.symm.trans hread
    · cases hunknown.symm.trans hread
  · obtain ⟨message, -, hmessage⟩ | ⟨found, hfaulty, hfound⟩ | ⟨hnot, hunknown⟩ :=
      ofTrimmed_cases hline
    · cases hmessage.symm.trans hread
    · cases hfound.symm.trans hread
      exact Or.inl hfaulty
    · cases hunknown.symm.trans hread
      exact Or.inr ⟨rfl, fun message hspoken => hnot (Or.inl ⟨message, hspoken⟩),
        fun other hfaulty => hnot (Or.inr ⟨other, hfaulty⟩)⟩
  · rintro (hfaulty | ⟨rfl, hspoken, hfaulty⟩)
    · exact ofTrimmed_of_faulty hline hfaulty
    · exact ofTrimmed_of_not_known fun hknown => hknown.elim (fun ⟨message, h⟩ => hspoken message h)
        fun ⟨fault, h⟩ => hfaulty fault h

/-- The slot number is looked at first. -/
example : ofLine " Slot:x:y\n" = .error (.invalidSlot "x") := by decide +kernel

end Message

end Autosampler

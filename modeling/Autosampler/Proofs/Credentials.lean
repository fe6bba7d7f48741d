import Autosampler.Proofs.Admission

/-!
# Which tokens of the settings work

A token that an operator shows loses the blanks at its ends and the word before it; the tokens of the
settings are taken as they are.  So a token of the settings that has such blanks, or begins with the
word, is not the one that an operator shows with it.

* `lower_eq_iff`, `Wording` — the word before a token, in any case;
* `bareToken_of_wording`, `bareToken_of_plain` — what is left of a token behind the word, and of one
  without it;
* `configured_token_works_iff` — when a token of sound settings is accepted.
-/

namespace Autosampler.Operator

/-! ### The word before a token -/

/-- The word with the blank behind it, in any case. -/
def Wording (word : String) : Prop := Text.sameLetters word.toList bearer = true

instance (word : String) : Decidable (Wording word) := inferInstanceAs (Decidable (_ = true))

/-- Capitals are not blank. -/
theorem isBlank_of_lower {c : Char} (h : Text.isBlank (Text.lower c) = false) :
    Text.isBlank c = false := by
  unfold Text.lower at h
  split at h
  · rename_i hcapital
    have hle : 65 ≤ c.toNat ∧ c.toNat ≤ 90 := hcapital
    simp [Text.isBlank]
    omega
  · exact h

section Words

variable {word token : String}

theorem Wording.length (h : Wording word) : word.toList.length = bearer.length := by
  have hletters : word.toList.map Text.lower = bearer.map Text.lower := eq_of_beq h
  simpa using congrArg List.length hletters

theorem Wording.head (h : Wording word) :
    ∀ c, word.toList.head? = some c → Text.isBlank c = false := by
  intro c hc
  have hletters : word.toList.map Text.lower = bearer.map Text.lower := eq_of_beq h
  have hfirst : some (Text.lower c) = some 'b' := by
    have hheads := congrArg List.head? hletters
    rw [List.head?_map, hc] at hheads
    exact hheads
  exact isBlank_of_lower (by rw [Option.some.inj hfirst]; decide)

/-- Behind the word a token loses the blanks at its ends and nothing else. -/
theorem bareToken_of_wording (h : Wording word) (hblank : Text.allBlank token = false) :
    bareToken (word ++ token) = Text.trimmed token := by
  obtain ⟨htrimmed, before, after, htoken, hbefore, hafter⟩ := Text.trim_eq_iff.mp
    (rfl : Text.trim token.toList = _)
  have hsome : Text.trim token.toList ≠ [] := by
    intro hnil
    rw [hnil, List.nil_append] at htoken
    have hall : Text.allBlank token = true := by
      rw [Text.allBlank, htoken, List.all_append, List.all_eq_true.mpr hbefore,
        List.all_eq_true.mpr hafter]
      rfl
    rw [hall] at hblank
    cases hblank
  have hword : word.toList ≠ [] := by
    intro hnil
    have hlength := h.length
    rw [hnil] at hlength
    cases hlength
  -- the blanks before the token are now within the text, and those behind it still at its end
  have htrim : Text.trim (word ++ token).toList
      = word.toList ++ (before ++ Text.trim token.toList) := by
    refine Text.trim_eq_iff.mpr ⟨⟨fun c hc => ?_, fun c hc => ?_⟩, [], after, ?_, nofun, hafter⟩
    · rw [List.head?_append, Option.or_of_isSome (List.isSome_head?.mpr hword)] at hc
      exact h.head c hc
    · rw [← List.append_assoc, List.getLast?_append,
        Option.or_of_isSome (List.getLast?_isSome.mpr hsome)] at hc
      exact htrimmed.last c hc
    · rw [String.toList_append, List.nil_append, List.append_assoc, List.append_assoc, ← htoken]
  unfold bareToken
  dsimp only
  have hletters : Text.sameLetters word.toList bearer = true := h
  rw [htrim, ← h.length, List.take_left, List.drop_left, if_pos hletters,
    Text.trimStart_append hbefore, Text.trimStart_of_head htrimmed.head, Text.trimmed]

/-- A token without blanks at its ends and without the word before it is shown as it is. -/
theorem bareToken_of_plain (htrimmed : Text.IsTrimmed token.toList)
    (hword : ∀ word rest, token = word ++ rest → ¬Wording word) : bareToken token = token := by
  have htake : ¬Text.sameLetters (token.toList.take bearer.length) bearer = true := by
    have hsplit : token = String.ofList (token.toList.take bearer.length)
        ++ String.ofList (token.toList.drop bearer.length) := by
      rw [← String.ofList_append, List.take_append_drop, String.ofList_toList]
    have hnot := hword _ _ hsplit
    rwa [Wording, String.toList_ofList] at hnot
  unfold bareToken
  rw [Text.trim_of_isTrimmed htrimmed]
  dsimp only
  rw [if_neg htake, String.ofList_toList]

end Words

/-! ### The tokens of the settings -/

/-- **A token works if it is its own bare form.**  The settings are sound, and the token is one of
theirs.  Shown alone it is accepted exactly if its bare form is one of the tokens; shown behind the
word, in any case, exactly if its form without blanks at the ends is one of them.  So both hold if
the token has no blanks at its ends and does not begin with the word. -/
theorem configured_token_works_iff {config : Config} (hc : config.check = .ok ()) {token : String}
    (ht : token ∈ config.tokens) :
    let check := (TokenList.ofList config.tokens).check
    (check (some token) = .ok () ↔ bareToken token ∈ config.tokens) ∧
      (∀ word, Wording word →
        (check (some (word ++ token)) = .ok () ↔ Text.trimmed token ∈ config.tokens)) ∧
      (Text.IsTrimmed token.toList → (∀ word rest, token = word ++ rest → ¬Wording word) →
        check (some token) = .ok () ∧
          ∀ word, Wording word → check (some (word ++ token)) = .ok ()) := by
  intro check
  have h := guarded_of_check hc (List.ne_nil_of_mem ht)
  have hshown : ∀ shown, check (some shown) = .ok () ↔ bareToken shown ∈ config.tokens := by
    intro shown
    rw [h.check_eq_ok]
    simp
  have hworded : ∀ word, Wording word →
      (check (some (word ++ token)) = .ok () ↔ Text.trimmed token ∈ config.tokens) := by
    intro word hword
    rw [hshown, bareToken_of_wording hword (h.sound token ht)]
  refine ⟨hshown token, hworded, fun htrimmed hplain => ⟨?_, fun word hword => ?_⟩⟩
  · rw [hshown, bareToken_of_plain htrimmed hplain]
    exact ht
  · rw [hworded word hword, Text.trimmed, Text.trim_of_isTrimmed htrimmed, String.ofList_toList]
    exact ht

/-- Settings with a plain token, and with one that has a blank before it and the word in it. -/
def twoTokens : Config := { tokens := ["secret", " Bearer secret"] }

/-- The second token is accepted for the first one, and not behind the word. -/
theorem configured_token_works_iff_worded :
    twoTokens.check = .ok () ∧ " Bearer secret" ∈ twoTokens.tokens ∧ Wording "BEARER " ∧
      let check := (TokenList.ofList twoTokens.tokens).check
      check (some " Bearer secret") = .ok () ∧
        check (some "BEARER  Bearer secret") ≠ .ok () ∧ check (some "BEARER secret") = .ok () := by
  have hfault : twoTokens.fault? = none := by decide +kernel
  have hc : twoTokens.check = .ok () := by rw [Config.check, hfault]
  have hplain : "secret" ∈ twoTokens.tokens := by decide
  have ht : " Bearer secret" ∈ twoTokens.tokens := by decide
  have hword : Wording "BEARER " := by decide
  obtain ⟨halone, hworded, -⟩ := configured_token_works_iff hc ht
  refine ⟨hc, ht, hword, halone.mpr (by decide +kernel), fun haccepted => ?_,
    ((configured_token_works_iff hc hplain).2.1 "BEARER " hword).mpr (by decide +kernel)⟩
  exact absurd ((hworded "BEARER " hword).mp haccepted) (by decide +kernel)

/-- A token of sound settings with a blank before it is accepted in no form. -/
theorem blank_before_token_shuts_out :
    ({ tokens := [" secret"] } : Config).check = .ok () ∧
      let check := (TokenList.ofList [" secret"]).check
      check (some " secret") = .error .invalid ∧
        check (some "Bearer  secret") = .error .invalid := by
  have hfault : ({ tokens := [" secret"] } : Config).fault? = none := by decide +kernel
  refine ⟨by rw [Config.check, hfault], ?_, ?_⟩ <;> rfl

end Autosampler.Operator

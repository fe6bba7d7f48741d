import Autosampler.Text.Ascii
import Autosampler.Text.Blank

/-!
# Tokens of operators

An operator shows a token with every command.  The word `Bearer` may stand before the token.

* `bareToken` — a token without that word;
* `Denial`, `Denial.message` — why a token is not accepted;
* `TokenList`, `TokenList.ofList`, `TokenList.check` — the accepted tokens; if there are none,
  everybody is admitted.
-/

namespace Autosampler.Operator

/-- The word before a token, with the blank behind it. -/
def bearer : List Char := "bearer ".toList

/-- A token without blanks at its ends and without the word before it, whatever its case. -/
def bareToken (s : String) : String :=
  let cs := Text.trim s.toList
  if Text.sameLetters (cs.take bearer.length) bearer then
    String.ofList (Text.trimStart (cs.drop bearer.length))
  else String.ofList cs

/-- Why a token is not accepted. -/
inductive Denial where
  | missing
  | invalid
deriving DecidableEq

/-- The wording of a denial. -/
def Denial.message : Denial → String
  | missing => "missing authorization token"
  | invalid => "invalid authorization token"

/-- A decision on the token that came with a command. -/
abbrev Check := Option String → Except Denial Unit

/-- Everybody is admitted. -/
def admitAll : Check := fun _ => .ok ()

/-- The tokens that are accepted. -/
structure TokenList where
  tokens : List String
deriving DecidableEq

namespace TokenList

/-- Blank tokens are never accepted. -/
def ofList (tokens : List String) : TokenList := ⟨tokens.filter fun t => !Text.allBlank t⟩

/-- There are no tokens, so that everybody is admitted. -/
def isEmpty (l : TokenList) : Bool := l.tokens.isEmpty

/-- Accept the tokens of the list. -/
def check (l : TokenList) : Check := fun token =>
  if l.isEmpty then .ok ()
  else
    match token with
    | none => .error .missing
    | some t => if l.tokens.contains (bareToken t) then .ok () else .error .invalid

end TokenList

end Autosampler.Operator

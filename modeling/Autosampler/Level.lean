import Autosampler.Text.Ascii
import Autosampler.Text.Blank
import Autosampler.Text.Numeral

/-!
# Log levels

* `Level`, `Level.name` — how much is logged;
* `Level.ofName?` — a level by its name, whatever its case, or by its number from one on;
* `Level.ofSetting` — the level of a setting; anything unknown means `info`.
-/

namespace Autosampler

/-- How much is logged: every level includes the ones before it. -/
inductive Level where
  | error
  | warn
  | info
  | debug
  | trace
deriving DecidableEq

namespace Level

/-- All levels. -/
def all : List Level := [error, warn, info, debug, trace]

/-- The name of a level. -/
def name : Level → String
  | error => "ERROR"
  | warn => "WARN"
  | info => "INFO"
  | debug => "DEBUG"
  | trace => "TRACE"

/-- The level of a name or a number. -/
def ofName? (cs : List Char) : Option Level :=
  let numbered :=
    match Text.readWord? Text.word64 cs with
    | some (n + 1) => all[n]?
    | _ => none
  numbered.or (all.find? fun level => Text.sameLetters level.name.toList cs)

/-- The level of a setting. -/
def ofSetting (setting : Option String) : Level :=
  (setting.bind fun s => ofName? (Text.trim s.toList)).getD info

end Level

end Autosampler

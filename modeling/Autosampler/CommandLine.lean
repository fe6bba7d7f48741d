import Autosampler.Net.Address
import Autosampler.Text.Numeral

/-!
# The command line

* `CommandLine` — what the command line says;
* `Stop` — why the program does not go on: a mistake, or a question that is answered at once;
* `Parameter`, `Flag`, `Spelling` — options with and without a value, and their spellings;
* `CommandLine.store`, `CommandLine.raise` — the effect of one option;
* `Scan`, `Scan.word`, `CommandLine.parse` — the words one after the other.

Words are followed from left to right, and the first mistake or question ends the reading.
-/

namespace Autosampler

/-- What the command line says. -/
structure CommandLine where
  configPath : Option String := none
  /-- Only show settings to start from. -/
  printConfig : Bool := false
  backend : Option String := none
  robotAddress : Option String := none
  slots : Option Nat := none
  listen : Option Address := none
  port : Option UInt16 := none
  controlPort : Option UInt16 := none
deriving DecidableEq

/-- Why the program does not go on. -/
inductive Stop where
  /-- The command line cannot be understood. -/
  | usage
  | help
  | version
deriving DecidableEq

/-! ### Options -/

/-- An option with a value. -/
inductive Parameter where
  | config
  | backend
  | slots
  | listen
  | port
  | controlPort
deriving DecidableEq

/-- An option without a value. -/
inductive Flag where
  | printConfig
  | help
  | version
deriving DecidableEq

/-- How an option is spelled: a long name, and for some a letter. -/
structure Spelling (α : Type) where
  option : α
  long : String
  letter : Option Char := none

/-- The options with a value. -/
def parameters : List (Spelling Parameter) :=
  [⟨.config, "config", some 'C'⟩, ⟨.backend, "backend", some 'b'⟩,
   ⟨.slots, "nsamples", some 'n'⟩, ⟨.listen, "listen", some 'l'⟩,
   ⟨.port, "port", some 'p'⟩, ⟨.controlPort, "control-port", none⟩]

/-- The options without a value. -/
def flags : List (Spelling Flag) :=
  [⟨.printConfig, "print-config", none⟩, ⟨.help, "help", some 'h'⟩,
   ⟨.version, "version", some 'V'⟩]

/-- The option of a long name. -/
def ofLong? {α : Type} (options : List (Spelling α)) (name : List Char) : Option α :=
  (options.find? fun s => s.long.toList == name).map Spelling.option

/-- The option of a letter. -/
def ofLetter? {α : Type} (options : List (Spelling α)) (c : Char) : Option α :=
  (options.find? fun s => s.letter == some c).map Spelling.option

/-- A port: a whole number with an optional sign. -/
def portOfText? (s : String) : Option UInt16 :=
  match s.toList with
  | '-' :: cs => ((Text.digitsValue? 10 cs).filter (· = 0)).map UInt16.ofNat
  | cs => (Text.readWord? (Nat.pow 2 16) cs).map UInt16.ofNat

/-- A value that is given for the first time and can be read. -/
def once {α : Type} (before given : Option α) : Except Stop (Option α) :=
  match before, given with
  | none, some a => .ok (some a)
  | _, _ => .error .usage

namespace CommandLine

/-- Store the value of an option. -/
def store (line : CommandLine) (p : Parameter) (value : String) : Except Stop CommandLine :=
  match p with
  | .config =>
    (once line.configPath (if value = "" then none else some value)).map fun v =>
      { line with configPath := v }
  | .backend => (once line.backend (some value)).map fun v => { line with backend := v }
  | .slots =>
    (once line.slots (Text.readWord? Text.word64 value.toList)).map fun v =>
      { line with slots := v }
  | .listen =>
    (once line.listen (Address.ofText? value)).map fun v => { line with listen := v }
  | .port => (once line.port (portOfText? value)).map fun v => { line with port := v }
  | .controlPort =>
    (once line.controlPort (portOfText? value)).map fun v => { line with controlPort := v }

/-- Follow an option without a value. -/
def raise (line : CommandLine) : Flag → Except Stop CommandLine
  | .printConfig =>
    if line.printConfig then .error .usage else .ok { line with printConfig := true }
  | .help => .error .help
  | .version => .error .version

/-- Store a word that stands for itself: the address of the robot. -/
def storeWord (line : CommandLine) (word : String) : Except Stop CommandLine :=
  (once line.robotAddress (some word)).map fun v => { line with robotAddress := v }

end CommandLine

/-! ### Words -/

/-- The state between two words. -/
structure Scan where
  line : CommandLine := {}
  /-- The option whose value is the next word. -/
  pending : Option Parameter := none
  /-- All further words stand for themselves. -/
  plain : Bool := false

/-- A word that may be a value: it does not look like an option. -/
def isValue : List Char → Bool
  | '-' :: _ :: _ => false
  | _ => true

/-- A value behind an option's letter; an equals sign may stand in between. -/
def dropEquals : List Char → List Char
  | '=' :: cs => cs
  | cs => cs

namespace Scan

/-- A word of letters after one dash: options without a value, and one with a value last. -/
def letters (line : CommandLine) : List Char → Except Stop Scan
  | [] => .ok { line := line }
  | c :: cs =>
    match ofLetter? flags c, ofLetter? parameters c with
    | some flag, _ => (line.raise flag).bind fun line' => letters line' cs
    | none, some p =>
      if cs = [] then .ok { line := line, pending := some p }
      else (line.store p (String.ofList (dropEquals cs))).map fun line' => { line := line' }
    | none, none => .error .usage

/-- A long name after two dashes, perhaps with an equals sign and a value. -/
def long (line : CommandLine) (cs : List Char) : Except Stop Scan :=
  let name := cs.takeWhile (· ≠ '=')
  match cs.drop name.length, ofLong? flags name, ofLong? parameters name with
  | [], some flag, _ => (line.raise flag).map fun line' => { line := line' }
  | [], none, some p => .ok { line := line, pending := some p }
  | _ :: value, none, some p =>
    (line.store p (String.ofList value)).map fun line' => { line := line' }
  | _, _, _ => .error .usage

/-- Follow a word. -/
def word (s : Scan) (w : String) : Except Stop Scan :=
  if s.plain then (s.line.storeWord w).map fun line => { s with line := line }
  else
    match s.pending with
    | some p =>
      if isValue w.toList then (s.line.store p w).map fun line => { line := line }
      else .error .usage
    | none =>
      match w.toList with
      | ['-', '-'] => .ok { s with plain := true }
      | '-' :: '-' :: name => long s.line name
      | '-' :: c :: cs => letters s.line (c :: cs)
      | _ => (s.line.storeWord w).map fun line => { s with line := line }

/-- The end of the words. -/
def finish (s : Scan) : Except Stop CommandLine :=
  match s.pending with
  | some _ => .error .usage
  | none => .ok s.line

end Scan

/-- What the words of a command line say. -/
def CommandLine.parse (words : List String) : Except Stop CommandLine :=
  (words.foldlM Scan.word {}).bind Scan.finish

end Autosampler

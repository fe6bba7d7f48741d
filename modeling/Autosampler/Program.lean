import Autosampler.Text.Blank
import Autosampler.Text.Numeral

/-!
# Robot programs

The robot runs programs stored on its controller.  The changer's own programs are named after
what they do and, where they visit a slot, the slot's number counted from zero.

* `Program`, `Program.fileName`, `Program.slot?`, `Program.carriesSample` — the programs;
* `Program.named` — a free program, by a checked name;
* `Program.ofFileName` — the program of a file name.
-/

namespace Autosampler

/-- The ending of every program file. -/
def programEnding : List Char := ['.', 'u', 'r', 'p']

/-- A program on the robot's controller. -/
inductive Program where
  /-- A new sample goes from the load station into a slot. -/
  | load (slot : Nat)
  /-- The sample in a slot leaves the magazine. -/
  | unload (slot : Nat)
  /-- The sample in a slot goes to the measurement position. -/
  | mount (slot : Nat)
  /-- The mounted sample goes back into a slot. -/
  | unmount (slot : Nat)
  /-- Every slot is visited with camera and presence sensor. -/
  | scan
  /-- The arm goes home. -/
  | reset
  /-- A program of another name. -/
  | free (name : String)
deriving DecidableEq

/-- What is wrong with the name of a free program. -/
inductive ProgramFault where
  | noProgramFile (name : String)
  | blankInside (name : String)
deriving DecidableEq

/-- The wording of a fault in a program's name. -/
def ProgramFault.message : ProgramFault → String
  | noProgramFile name => "'" ++ name ++ "' is not a .urp file"
  | blankInside name => "'" ++ name ++ "' contains whitespace"

namespace Program

/-- The file name of a program. -/
def fileName : Program → String
  | load slot => "in" ++ Text.decimal slot ++ ".urp"
  | unload slot => "out" ++ Text.decimal slot ++ ".urp"
  | mount slot => "messpos" ++ Text.decimal slot ++ ".urp"
  | unmount slot => "messposin" ++ Text.decimal slot ++ ".urp"
  | scan => "scan.urp"
  | reset => "reset.urp"
  | free name => name

/-- The slot that a program takes a sample from or brings it to. -/
def slot? : Program → Option Nat
  | load slot | unload slot | mount slot | unmount slot => some slot
  | scan | reset | free _ => none

/-- While the program runs, the gripper holds a sample of the magazine. -/
def carriesSample : Program → Bool
  | mount _ | unmount _ => true
  | _ => false

/-- The text before the program ending, if the text has it. -/
def stem? (cs : List Char) : Option (List Char) :=
  if programEnding.isSuffixOf cs then some (cs.take (cs.length - programEnding.length)) else none

/-- A free program by its name, trimmed.  The name has something before the ending, and neither
blanks nor control characters inside. -/
def named (name : String) : Except ProgramFault Program :=
  let cs := Text.trim name.toList
  match stem? cs with
  | none | some [] => .error (.noProgramFile (String.ofList cs))
  | some _ =>
    if cs.any fun c => Text.isBlank c || Text.isControl c then
      .error (.blankInside (String.ofList cs))
    else .ok (.free (String.ofList cs))

/-- The programs named after a slot: what stands before the number, and the program. -/
def slotted : List (List Char × (Nat → Program)) :=
  [("messposin".toList, unmount), ("messpos".toList, mount), ("in".toList, load),
   ("out".toList, unload)]

/-- The number after `head` in a stem, if the rest of the stem is one. -/
def slotAfter? (head stem : List Char) : Option Nat :=
  if head.isPrefixOf stem then Text.readWord? Text.word64 (stem.drop head.length) else none

/-- The slotted program of a stem. -/
def ofStem? (stem : List Char) : Option Program :=
  slotted.findSome? fun entry => (slotAfter? entry.1 stem).map entry.2

/-- The program of a file name: one of the changer's own if the name fits, else a free one. -/
def ofFileName (name : String) : Except ProgramFault Program :=
  match stem? (Text.trim name.toList) with
  | none => named name
  | some stem =>
    if stem = "scan".toList then .ok scan
    else if stem = "reset".toList then .ok reset
    else
      match ofStem? stem with
      | some program => .ok program
      | none => named name

end Program

end Autosampler

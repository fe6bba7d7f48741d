import Autosampler.Text.Blank
import Autosampler.Text.Numeral

/-!
# Messages of the robot

The robot reports in lines of text.  Slots are counted from one on these lines.

* `Message` — what a line says;
* `LineFault`, `LineFault.message` — what is wrong with a line;
* `Message.ofLine` — the message of a line;
* `Message.probeReply` — the reply to a status probe.

A line is `ok`, `error`, `error:` and a text, `GET` and a key, `QR:` and a slot, or `Slot:`, a
slot, a colon and a flag `0` or `1`.  Blanks around the line, the slot and the flag do not count.
-/

namespace Autosampler

/-! ### Messages -/

/-- What the robot says on a line. -/
inductive Message where
  /-- A slot holds a sample, or does not. -/
  | slot (slot : Nat) (present : Bool)
  /-- The camera is in front of a slot. -/
  | qr (slot : Nat)
  /-- A status probe. -/
  | get (key : String)
  /-- The last program finished. -/
  | ok
  /-- The last program failed. -/
  | error (text : Option String)
deriving DecidableEq

/-- What is wrong with a line. -/
inductive LineFault where
  | empty
  | unknown (line : String)
  | malformed (kind line : String)
  | invalidSlot (value : String)
  | invalidFlag (value : String)
deriving DecidableEq

/-- The wording of a fault in a line. -/
def LineFault.message : LineFault → String
  | empty => "empty line"
  | unknown line => "unknown message '" ++ line ++ "'"
  | malformed kind line => "malformed " ++ kind ++ " message '" ++ line ++ "'"
  | invalidSlot value => "invalid slot number '" ++ value ++ "'"
  | invalidFlag value => "invalid presence flag '" ++ value ++ "'"

namespace Message

/-! ### Reading -/

/-- The text before the first colon and, if there is a colon, the text after it. -/
def splitColon (cs : List Char) : List Char × Option (List Char) :=
  match cs.dropWhile (· ≠ ':') with
  | [] => (cs, none)
  | _ :: rest => (cs.takeWhile (· ≠ ':'), some rest)

/-- A slot number: a positive 64-bit decimal. -/
def readSlot (value : List Char) : Except LineFault Nat :=
  match Text.readWord? Text.word64 (Text.trim value) with
  | some (n + 1) => .ok (n + 1)
  | _ => .error (.invalidSlot (String.ofList value))

/-- A presence flag. -/
def readFlag (value : List Char) : Except LineFault Bool :=
  match Text.trim value with
  | ['0'] => .ok false
  | ['1'] => .ok true
  | other => .error (.invalidFlag (String.ofList other))

/-- The start of a status probe. -/
def probeHead : List Char := "GET ".toList

/-- The message of a line without blanks at its ends. -/
def ofTrimmed (line : List Char) : Except LineFault Message :=
  let malformed (kind : String) : Except LineFault Message :=
    .error (.malformed kind (String.ofList line))
  if line = [] then .error .empty
  else if probeHead.isPrefixOf line then
    let key := Text.trim (line.drop probeHead.length)
    if key = [] || key.any Text.isBlank then malformed "GET" else .ok (.get (String.ofList key))
  else
    match splitColon line with
    | (head, none) =>
      if head = "ok".toList then .ok .ok
      else if head = "error".toList then .ok (.error none)
      else .error (.unknown (String.ofList line))
    | (head, some rest) =>
      if head = "error".toList then .ok (.error (some (String.ofList rest)))
      else if head = "QR".toList then
        if rest.contains ':' then malformed "QR" else (readSlot rest).map .qr
      else if head = "Slot".toList then
        match splitColon rest with
        | (_, none) => malformed "Slot"
        | (number, some flag) =>
          if flag.contains ':' then malformed "Slot"
          else
            match readSlot number with
            | .error fault => .error fault
            | .ok n => (readFlag flag).map (.slot n)
      else if head = "ok".toList then malformed "ok"
      else .error (.unknown (String.ofList line))

/-- The message of a line. -/
def ofLine (line : String) : Except LineFault Message := ofTrimmed (Text.trim line.toList)

/-- The reply to a status probe. -/
def probeReply (key : String) : String := key ++ " 1\n"

end Message

end Autosampler

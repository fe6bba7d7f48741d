import Autosampler.Event
import Autosampler.Json.Reader
import Autosampler.Robot.Status

/-!
# Names on the wire

States, statuses, events, modes and safety statuses are written by their names.

* `Json.readNamed` — a value given by its name;
* `State.read`, `Status.read`, `Event.read`, `Mode.read`, `Safety.read` — the readers;
* `State.toJson` and its like — the way back.
-/

namespace Autosampler

open Json (Reader Value)

/-- A value of a finite type, given by its name. -/
def Json.readNamed {α : Type} (name : α → String) (values : List α) : Reader α :=
  Json.readVariant (values.map fun a => Json.Variant.plain (name a) a)

/-- A state by its name. -/
def State.read : Reader State := Json.readNamed State.id State.all

/-- A state as its name. -/
def State.toJson (s : State) : Value := .text s.id

/-- A status by its name. -/
def Status.read : Reader Status := Json.readNamed Status.id Status.all

/-- A status as its name. -/
def Status.toJson (s : Status) : Value := .text s.id

/-- An event by its name. -/
def Event.read : Reader Event := Json.readNamed Event.id Event.all

/-- An event as its name. -/
def Event.toJson (e : Event) : Value := .text e.id

/-- An operating mode by its name. -/
def Mode.read : Reader Mode := Json.readNamed Mode.name Mode.all

/-- An operating mode as its name. -/
def Mode.toJson (m : Mode) : Value := .text m.name

/-- A safety status by its name. -/
def Safety.read : Reader Safety := Json.readNamed Safety.name Safety.all

/-- A safety status as its name. -/
def Safety.toJson (s : Safety) : Value := .text s.name

end Autosampler

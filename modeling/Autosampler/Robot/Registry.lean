import Autosampler.Robot.Dashboard.Client
import Autosampler.Robot.Dummy
import Autosampler.Text.Ascii

/-!
# Registered backends

A backend is a kind of robot driver.  Backends are registered under plain names, so that case and
punctuation do not matter, and a later registration replaces an earlier one.

* `Backend`, `Backend.info` — the drivers that can be built;
* `Device`, `Device.hardware` — a driver of any backend with its state;
* `Factory` — a way to build a backend from settings;
* `Registry`, `Registry.register`, `Registry.merge` — factories by plain name, in order of the
  names;
* `Registry.build` — the backend of a name;
* `Registry.builtin` — the backends that are always there.
-/

namespace Autosampler

/-! ### Backends -/

/-- A driver with its settings. -/
inductive Backend where
  | dummy
  | dashboard (client : Dashboard)
deriving DecidableEq

/-- What a backend says about itself. -/
def Backend.info : Backend → DriverInfo
  | dummy => Dummy.info
  | dashboard client => client.info

/-- A driver of any backend with its state; `π` is the state of a dashboard's other side. -/
inductive Device (π : Type) where
  | dummy (state : Dummy)
  | dashboard (client : Dashboard) (link : Link π)

/-- A driver that has not done anything yet. -/
def Backend.device {π : Type} (peer : π) : Backend → Device π
  | dummy => .dummy {}
  | dashboard client => .dashboard client ⟨peer, false⟩

namespace Device

variable {π : Type}

/-- Carry out an order. -/
def perform (p : Peer π) : Device π → Order → Device π × Answer
  | dummy state, order => ((dummy (state.perform order).1), (state.perform order).2)
  | dashboard client link, order =>
    let (link', answer) := client.perform p link order
    (dashboard client link', answer)

/-- Ask for the status. -/
def status (p : Peer π) : Device π → Device π × Except String RobotStatus
  | dummy state => (dummy state, .ok state.status)
  | dashboard client link =>
    let (link', report) := client.status p link
    (dashboard client link', report)

/-- The driver of any backend. -/
def hardware (p : Peer π) : Hardware (Device π) := { perform := perform p, status := status p }

end Device

/-- A way to build a backend from settings. -/
abbrev Factory := Settings → Except String Backend

/-- A dashboard needs an address. -/
def Dashboard.factory : Factory := fun settings =>
  match settings.access with
  | .tcp addr => .ok (.dashboard ⟨addr, settings.timeout, settings.retry⟩)
  | .none => .error "UR backend requires a dashboard address"

/-! ### The registry -/

/-- Factories by plain name. -/
structure Registry where
  /-- The entries, names strictly increasing. -/
  entries : List (String × Factory)

namespace Registry

/-- Put a factory under a plain name into a list of entries. -/
def place (name : String) (factory : Factory) : List (String × Factory) → List (String × Factory)
  | [] => [(name, factory)]
  | entry :: rest =>
    if name = entry.1 then (name, factory) :: rest
    else if name < entry.1 then (name, factory) :: entry :: rest
    else entry :: place name factory rest

/-- A registry without backends. -/
def empty : Registry := ⟨[]⟩

/-- Register a factory under the plain form of a name. -/
def register (r : Registry) (name : String) (factory : Factory) : Registry :=
  ⟨place (Text.plainName name) factory r.entries⟩

/-- Take over the entries of another registry. -/
def merge (r other : Registry) : Registry :=
  ⟨other.entries.foldl (fun entries e => place e.1 e.2 entries) r.entries⟩

/-- The factory of a name. -/
def find? (r : Registry) (name : String) : Option Factory :=
  (r.entries.find? fun e => e.1 = Text.plainName name).map Prod.snd

/-- A backend of that name is registered. -/
def contains (r : Registry) (name : String) : Bool := (r.find? name).isSome

/-- The plain names, increasing. -/
def names (r : Registry) : List String := r.entries.map Prod.fst

/-- Build the backend of a name. -/
def build (r : Registry) (name : String) (settings : Settings) : Except String Backend :=
  match r.find? name with
  | some factory => factory settings
  | none => .error ("Unknown robot backend: " ++ name)

/-- Register the backends that are always there. -/
def addBuiltin (r : Registry) : Registry :=
  (r.register "dummy" fun _ => .ok .dummy).register "ur" Dashboard.factory

/-- The backends that are always there. -/
def builtin : Registry := empty.addBuiltin

end Registry

end Autosampler

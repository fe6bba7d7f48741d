import Autosampler.Text.Numeral
import Autosampler.Text.Quoted

/-!
# The event bus

Acknowledgements of the robot go to handlers that are registered under an outcome and a tag;
what camera and presence sensor find goes to slot listeners.  Every call is isolated: a handler
that fails or crashes is counted, and the ones after it are called all the same.

* `Outcome`, `Ending` — what the robot says about a program, and how a handler ended;
* `Handler`, `SlotListener` — what can be registered, acting on a state `σ`;
* `Bus`, `Bus.register`, `Bus.subscribe`, `Bus.unsubscribe` — the tables;
* `Bus.dispatch`, `Bus.identified`, `Bus.presence` — the calls, in order of registration.
-/

namespace Autosampler

/-! ### What is registered -/

/-- What the robot says about the last program. -/
inductive Outcome where
  | ok
  | error
deriving DecidableEq

/-- How the call of a handler ended. -/
inductive Ending where
  | done
  | failed
  | crashed
deriving DecidableEq

/-- A handler of acknowledgements, under the outcome and the tag that it is meant for. -/
structure Handler (σ : Type) where
  outcome : Outcome
  tag : String
  /-- The effect on the state, given the text of the acknowledgement. -/
  act : σ → Option String → σ × Ending

/-- A listener for what is found at a slot, counted from zero. -/
structure SlotListener (σ : Type) where
  /-- An identifier was read. -/
  identified : σ → Nat → String → σ × Ending := fun s _ _ => (s, .done)
  /-- The presence sensor reported. -/
  presence : σ → Nat → Bool → σ × Ending := fun s _ _ => (s, .done)

/-- The number of handlers called, and of those that did not end well. -/
structure DispatchReport where
  matched : Nat
  failed : Nat
deriving DecidableEq

/-! ### The tables -/

/-- The handlers and listeners, in order of registration. -/
structure Bus (σ : Type) where
  handlers : List (Handler σ) := []
  /-- The slot listeners with their numbers; a number is given once. -/
  listeners : List (Nat × SlotListener σ) := []
  /-- The number of the next slot listener.  It stands for a counter of 64 bits, which is not
  exhausted. -/
  nextNumber : Nat := 0

namespace Bus

variable {σ : Type}

/-- Append handlers; handlers of one key are kept side by side. -/
def register (b : Bus σ) (hs : List (Handler σ)) : Bus σ :=
  { b with handlers := b.handlers ++ hs }

/-- Append a slot listener; the answer is its number. -/
def subscribe (b : Bus σ) (l : SlotListener σ) : Bus σ × Nat :=
  ({ b with
      listeners := b.listeners ++ [(b.nextNumber, l)]
      nextNumber := b.nextNumber + 1 },
   b.nextNumber)

/-- Remove the slot listener of a number. -/
def unsubscribe (b : Bus σ) (number : Nat) : Bus σ :=
  { b with listeners := b.listeners.filter fun entry => entry.1 ≠ number }

/-! ### Calls -/

/-- Call handlers one after the other. -/
def callHandlers (arg : Option String) : List (Handler σ) → σ → σ × DispatchReport
  | [], s => (s, ⟨0, 0⟩)
  | h :: hs, s =>
    let (s₁, ending) := h.act s arg
    let (s₂, report) := callHandlers arg hs s₁
    (s₂, ⟨report.matched + 1, if ending = .done then report.failed else report.failed + 1⟩)

/-- Call the handlers of an outcome and a tag. -/
def dispatch (b : Bus σ) (s : σ) (outcome : Outcome) (tag : String) (arg : Option String) :
    σ × DispatchReport :=
  callHandlers arg (b.handlers.filter fun h => h.outcome = outcome ∧ h.tag = tag) s

/-- Tell every slot listener that an identifier was read. -/
def identified (b : Bus σ) (s : σ) (slot : Nat) (id : String) : σ :=
  b.listeners.foldl (fun s entry => (entry.2.identified s slot id).1) s

/-- Tell every slot listener what the presence sensor reported. -/
def presence (b : Bus σ) (s : σ) (slot : Nat) (present : Bool) : σ :=
  b.listeners.foldl (fun s entry => (entry.2.presence s slot present).1) s

/-- The sizes of the tables, for reports. -/
def describe (b : Bus σ) : String :=
  "ChangerEventBus \x7b callbacks: " ++ Text.decimal b.handlers.length ++ ", slot_listeners: "
    ++ Text.decimal b.listeners.length ++ " \x7d"

end Bus

/-- The key of a handler, for reports. -/
def Handler.describe {σ : Type} (h : Handler σ) : String :=
  "CallbackEntry \x7b outcome: " ++ (match h.outcome with | .ok => "Ok" | .error => "Error")
    ++ ", tag: " ++ Text.quoted h.tag ++ ", .. \x7d"

end Autosampler

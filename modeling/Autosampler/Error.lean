import Autosampler.Machine
import Autosampler.Magazine
import Autosampler.Program

/-!
# Refused requests

Every reason for which a request to the changer is not carried out, with its wording.

* `Error`, `Error.message`.
-/

namespace Autosampler

/-- Why a request to the changer was not carried out. -/
inductive Error where
  /-- The event of the request is not allowed in the state. -/
  | transition (refusal : Refusal)
  /-- A slot or a sample could not be used. -/
  | magazine (reason : MagazineError)
  | notAtHome (state : State)
  | noFreeSlot
  | notHoldingSample
  | alreadyMounted (id : String)
  | sampleMounted (id : String)
  | magazineEmpty
  | invalidProgram (fault : ProgramFault)
  /-- The robot refused, in its own words. -/
  | driver (reason : String)
  /-- Nobody is there to carry the request out. -/
  | unavailable
deriving DecidableEq

/-- The wording of a refused request. -/
def Error.message : Error → String
  | transition refusal => refusal.message
  | magazine reason => reason.message
  | notAtHome state => "changer must be at home, current state is '" ++ state.id ++ "'"
  | noFreeSlot => "no free slot in the magazine"
  | notHoldingSample => "robot is not holding a sample"
  | alreadyMounted id => "sample '" ++ id ++ "' is already mounted"
  | sampleMounted id => "sample '" ++ id ++ "' is mounted and cannot be unloaded"
  | magazineEmpty => "magazine is empty"
  | invalidProgram fault => "invalid program: " ++ fault.message
  | driver reason => "driver error: " ++ reason
  | unavailable => "changer task unavailable"

end Autosampler

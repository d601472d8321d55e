import TapeMachine.Journal.Event
import TapeMachine.Machine.Settings

/-! What the program is told when it is called. Which words tell it that is for its surroundings to say. -/
namespace TapeMachine

structure Arguments where
  program : Option String
  eval : Option String
  input : Option String
  inputFile : Option String
  cellBits : Nat
  stepLimit : Option UInt64
  showPartial : Bool
  verbose : Bool
  deriving DecidableEq, Repr

namespace Arguments

/-- The size of the tape cannot be said. -/
def settings (a : Arguments) : Settings where
  cellBits := a.cellBits
  stepLimit := a.stepLimit

/-- The most talkative level that is shown if nothing else is asked for. -/
def level (a : Arguments) : Level :=
  if a.verbose then .debug else .warn

end Arguments

end TapeMachine

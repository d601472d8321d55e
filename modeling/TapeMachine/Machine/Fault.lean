import TapeMachine.Text.Quoted

/-! Why a step or a run stops short. A fault says what went wrong; a failure keeps with it the output
that was pending when it did. -/
namespace TapeMachine

inductive Fault where
  | invalidSyntax
  | undefinedToken (c : Char)
  | emptyInput
  | stepLimitExceeded (limit : UInt64)
  deriving DecidableEq, Repr

namespace Fault

/-- The line shown to whoever runs the program. -/
def message : Fault → String
  | invalidSyntax => "Invalid syntax"
  | undefinedToken _ => "Undefined token"
  | emptyInput => "Run-time error: empty input"
  | stepLimitExceeded limit => s!"Run-time error: step limit of {limit.toNat} exceeded"

/-- The name with its argument, as the journal has it. -/
def name : Fault → String
  | invalidSyntax => "InvalidSyntax"
  | undefinedToken c => "UndefinedToken(" ++ Quoted.literal c ++ ")"
  | emptyInput => "EmptyInput"
  | stepLimitExceeded limit => s!"StepLimitExceeded({limit.toNat})"

end Fault

structure Failure where
  fault : Fault
  partialOutput : String
  deriving DecidableEq, Repr

/-- A failure reads as its fault, whatever the output was. -/
def Failure.message (f : Failure) : String :=
  f.fault.message

end TapeMachine

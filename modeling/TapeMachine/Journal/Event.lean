import TapeMachine.Machine.Fault

/-! What a machine reports while it works: that it was loaded, that it entered or left a loop, how a run
ended. Straight-line steps and skipped loops report nothing. -/
namespace TapeMachine

/-- From the gravest to the most talkative. -/
inductive Level where
  | error
  | warn
  | info
  | debug
  | trace
  deriving DecidableEq, Repr

namespace Level

def rank : Level → Nat
  | error => 1
  | warn => 2
  | info => 3
  | debug => 4
  | trace => 5

def name : Level → String
  | error => "ERROR"
  | warn => "WARN"
  | info => "INFO"
  | debug => "DEBUG"
  | trace => "TRACE"

end Level

inductive Event where
  | loaded (tokens inputChars bits : Nat)
  | enteredLoop (size depth : Nat)
  | leftLoop (depth : Nat)
  | finished (steps cells outputChars : Nat)
  | failed (steps : Nat) (fault : Fault)
  deriving DecidableEq, Repr

namespace Event

def target : String :=
  "tapevm::vm"

def level : Event → Level
  | enteredLoop .. | leftLoop .. => .trace
  | loaded .. | finished .. | failed .. => .debug

def text : Event → String
  | loaded tokens inputChars bits =>
    s!"loaded {tokens} tokens, {inputChars} input chars, {bits}-bit cells"
  | enteredLoop size depth => s!"entering loop of {size} tokens at depth {depth}"
  | leftLoop depth => s!"left loop, depth {depth}"
  | finished steps cells outputChars =>
    s!"run finished after {steps} steps, tape has {cells} cells, {outputChars} chars of output"
  | failed steps fault => s!"run failed after {steps} steps: {fault.name}"

def line (e : Event) : String :=
  "[" ++ e.level.name ++ " " ++ target ++ "] " ++ e.text

end Event

end TapeMachine

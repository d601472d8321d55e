import TapeMachine.Interpreter
import TapeMachine.Console.Arguments

/-! The program proper: what it does with its arguments, what it prints and with which status it ends. How
the words of a command line become arguments, how files are found and which events are shown is left to its
surroundings. -/
namespace TapeMachine

inductive Reply where
  /-- The command line was not understood. -/
  | usage
  | done (status : Nat) (stdout stderr : String)
  deriving DecidableEq, Repr

/-- What the program does not do itself. -/
structure Surroundings (m : Type → Type) where
  /-- The text of a file, or what is wrong with it. -/
  read : String → m (Except String String)
  shows : Event → Bool
  /-- What is written to the error stream before anything else. -/
  preamble : String

structure Job where
  program : String
  input : String
  settings : Settings
  showPartial : Bool
  shows : Event → Bool
  preamble : String

def errorLine (message : String) : String :=
  "error: " ++ message ++ "\n"

namespace Job

def report (j : Job) (events : List Event) : String :=
  String.join ((events.filter j.shows).map fun e => e.line ++ "\n")

/-- A failed program ends with status 1, a refused setting with status 2. -/
def reply (j : Job) (fuel : Nat) : Option Reply :=
  match Interpreter.ofSettings j.settings with
  | .error defect => some (.done 2 "" (j.preamble ++ errorLine defect.message))
  | .ok interpreter =>
    (interpreter.interpret fuel j.program j.input).map fun run =>
      let log := j.preamble ++ j.report run.events
      match run.answer with
      | .ok output => .done 0 output log
      | .error failure =>
        .done 1 (if j.showPartial then failure.partialOutput else "")
          (log ++ failure.message ++ "\n")

end Job

namespace Surroundings

variable {m : Type → Type} [Monad m] (s : Surroundings m)

/-- The text of a file, or the message that `what` cannot be read. -/
def fetch (what path : String) : m (Except String String) := do
  return (← s.read path).mapError fun defect => s!"cannot read {what} {path}: " ++ defect

def programText (a : Arguments) : m (Except String String) :=
  match a.eval, a.program with
  | some code, _ => return .ok code
  | none, some path => s.fetch "program" path
  | none, none => return .error "a program file or --eval is required"

def inputText (a : Arguments) : m (Except String String) :=
  match a.input, a.inputFile with
  | some text, _ => return .ok text
  | none, some path => s.fetch "input" path
  | none, none => return .ok ""

/-- Fetches the texts; a reply comes instead if one of them is missing. -/
def prepare (a : Arguments) : m (Except Reply Job) := do
  let stop (message : String) : Except Reply Job :=
    .error (.done 2 "" (s.preamble ++ errorLine message))
  match ← s.programText a with
  | .error message => return stop message
  | .ok program =>
    match ← s.inputText a with
    | .error message => return stop message
    | .ok input =>
      return .ok {
        program, input
        settings := a.settings
        showPartial := a.showPartial
        shows := s.shows
        preamble := s.preamble }

end Surroundings

end TapeMachine

import TapeMachine.Program.Token
import TapeMachine.Memory.Tape
import TapeMachine.Machine.Settings
import TapeMachine.Journal.Event

/-! A tape machine between two steps. The program and every loop being run have a frame each; the tape,
the unread input and the output not yet handed over are shared by all of them. -/
namespace TapeMachine

/-- A token sequence being run, and the part of it still to come. -/
structure Frame where
  tokens : List Token
  rest : List Token
  /-- Falls by one at each `loopEnd` that the frame meets itself. -/
  balance : Int
  /-- A loop body runs again while the current cell is not zero; the program runs once. -/
  isLoop : Bool
  deriving DecidableEq, Repr

namespace Frame

def program (tokens : List Token) : Frame :=
  ⟨tokens, tokens, 0, false⟩

def loop (body : List Token) : Frame :=
  ⟨body, body, 0, true⟩

/-- The index of the next token. -/
def cursor (f : Frame) : Nat :=
  f.tokens.length - f.rest.length

/-- The frame about to run the token at the index. -/
def seek (f : Frame) (cursor : Nat) : Frame :=
  { f with rest := f.tokens.drop cursor }

/-- The frame at the start of its tokens again. -/
def restart (f : Frame) : Frame :=
  { f with rest := f.tokens }

end Frame

structure Machine where
  /-- The innermost loop first, the program last; none once the machine has nothing left to run. -/
  frames : List Frame
  tape : Tape
  input : List Char
  output : String
  steps : Nat
  stepLimit : Option UInt64
  deriving DecidableEq, Repr

namespace Machine

/-- The number of loops being run. -/
def depth (m : Machine) : Nat :=
  m.frames.length - 1

def start (settings : Settings) (program input : String) : Machine where
  frames := [.program (tokenize program)]
  tape := .blank settings.initialCells settings.growthChunk settings.cellBits
  input := input.toList
  output := ""
  steps := 0
  stepLimit := settings.stepLimit

/-- The report that goes with `start`. -/
def startEvent (settings : Settings) (program input : String) : Event :=
  .loaded (tokenize program).length input.length settings.cellBits

def load (settings : Settings) (program input : String) : Except SettingsError Machine := do
  settings.check
  return start settings program input

end Machine

end TapeMachine

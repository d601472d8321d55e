import TapeMachine.Program.Bracket
import TapeMachine.Machine.State

/-! One step of a machine. A step is one dispatched token or one test at the end of a loop body; coming
to the end of the program is none and costs nothing. A step that fails has a next state too, from which
the machine can be stepped on, after the token that failed. -/
namespace TapeMachine

structure Step where
  /-- Whether anything is left to run, or what went wrong. -/
  answer : Except Fault Bool
  next : Machine
  event : Option Event

namespace Step

def proceed (next : Machine) (event : Option Event) : Step :=
  ⟨.ok !next.frames.isEmpty, next, event⟩

def fail (next : Machine) (fault : Fault) : Step :=
  ⟨.error fault, next, none⟩

end Step

namespace Machine

/-- Counts the step and takes it, unless the limit is used up: then nothing changes. -/
def spend (m : Machine) (act : Machine → Step) : Step :=
  match m.stepLimit with
  | some limit =>
    if limit.toNat ≤ m.steps then .fail m (.stepLimitExceeded limit)
    else act { m with steps := m.steps + 1 }
  | none => act { m with steps := m.steps + 1 }

/-- The top frame stands just after a `loopStart`. Its loop must have an end even if it is skipped;
the frame goes on behind that end, and the body starts if the current cell is not zero. -/
def enterLoop (m : Machine) (top : Frame) (outer : List Frame) : Step :=
  match loopBody top.rest with
  | none => .fail { m with frames := top :: outer } .invalidSyntax
  | some (body, after) =>
    let frames := { top with rest := after } :: outer
    if m.tape.current.value = 0 then .proceed { m with frames } none
    else
      let m := { m with frames := .loop body :: frames }
      .proceed m (some (.enteredLoop body.length m.depth))

/-- The top frame stands just after a `loopEnd` that closes no loop of its own. -/
def strayLoopEnd (m : Machine) (top : Frame) (outer : List Frame) : Step :=
  let balance := top.balance - 1
  .fail { m with frames := { top with balance } :: outer }
    (if balance < 0 then .invalidSyntax else .undefinedToken ']')

/-- The top frame stands just after the token. -/
def dispatch (m : Machine) (token : Token) (top : Frame) (outer : List Frame) : Step :=
  let frames := top :: outer
  match token with
  | .increment => .proceed { m with frames, tape := m.tape.modify .increment } none
  | .decrement => .proceed { m with frames, tape := m.tape.modify .decrement } none
  | .right => .proceed { m with frames, tape := m.tape.moveRight } none
  | .left => .proceed { m with frames, tape := m.tape.moveLeft } none
  | .input =>
    match m.input with
    | [] => .fail { m with frames } .emptyInput
    | char :: input =>
      .proceed { m with frames, input, tape := m.tape.modify (·.receive char) } none
  | .output => .proceed { m with frames, output := m.output.push m.tape.current.char } none
  | .loopStart => m.enterLoop top outer
  | .loopEnd => m.strayLoopEnd top outer
  | .undefined char => .fail { m with frames } (.undefinedToken char)

/-- The body of a loop is over: it runs again unless the current cell is zero. -/
def retest (m : Machine) (top : Frame) (outer : List Frame) : Step :=
  if m.tape.current.value = 0 then
    let m := { m with frames := outer }
    .proceed m (some (.leftLoop m.depth))
  else .proceed { m with frames := top.restart :: outer } none

/-- A machine without frames has nothing left to run and stays as it is. -/
def step (m : Machine) : Step :=
  match m.frames with
  | [] => .proceed m none
  | top :: outer =>
    match top.rest, top.isLoop with
    | token :: rest, _ => m.spend fun m => m.dispatch token { top with rest } outer
    | [], true => m.spend fun m => m.retest top outer
    | [], false => .proceed { m with frames := outer } none

end Machine

end TapeMachine

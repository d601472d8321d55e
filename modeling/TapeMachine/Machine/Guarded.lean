import TapeMachine.Machine.Run
import TapeMachine.Memory.Guarded

/-! The machine in words of a fixed size and in memory that ends: a guard stands before every operation that
can fail or overflow, on the tape, in the scan for the end of a loop and in the counters. Frames are read by
their cursors. A guard that does not hold stops the machine; then there is no step, no run and no machine. -/
namespace TapeMachine

section Scan

variable (indexBits : Nat)

/-- How many tokens come before the end of the innermost of the loops that are open, `nesting` of
them; `offset` of them have been passed. -/
def endOffset? (nesting offset : Nat) : List Token → Option (Option Nat)
  | [] => some none
  | .loopStart :: rest => do
    endOffset? (← sum? indexBits nesting 1) (← sum? indexBits offset 1) rest
  | .loopEnd :: rest => do
    let left ← difference? nesting 1
    if left = 0 then return some offset
    else endOffset? left (← sum? indexBits offset 1) rest
  | _ :: rest => do endOffset? nesting (← sum? indexBits offset 1) rest

/-- The body of the loop opened just before the index, and the index just behind that loop. -/
def loopBodyAt? (tokens : List Token) (start : Nat) : Option (Option (List Token × Nat)) := do
  guard (start ≤ tokens.length)
  match ← endOffset? indexBits 1 0 (tokens.drop start) with
  | none => return none
  | some offset =>
    let stop ← sum? indexBits start offset
    guard (stop ≤ tokens.length)
    return some (slice tokens start stop, ← sum? indexBits stop 1)

end Scan

namespace Machine

variable (indexBits : Nat)

/-! ## Steps -/

/-- Steps are counted in sixty-four bits, whatever an index has. -/
def spend? (m : Machine) (act? : Machine → Option Step) : Option Step :=
  match m.stepLimit with
  | some limit =>
    if limit.toNat ≤ m.steps then some (.fail m (.stepLimitExceeded limit))
    else do act? { m with steps := ← sum? 64 m.steps 1 }
  | none => do act? { m with steps := ← sum? 64 m.steps 1 }

def enterLoop? (m : Machine) (top : Frame) (outer : List Frame) : Option Step := do
  match ← loopBodyAt? indexBits top.tokens top.cursor with
  | none => return .fail { m with frames := top :: outer } .invalidSyntax
  | some (body, next) =>
    let m := { m with frames := top.seek next :: outer }
    if (← m.tape.current?).value = 0 then
      return .proceed m none
    else
      let depth ← sum? indexBits m.depth 1
      return .proceed { m with frames := .loop body :: m.frames }
        (some (.enteredLoop body.length depth))

/-- The balance is a signed word of the same size as an index. -/
def strayLoopEnd? (m : Machine) (top : Frame) (outer : List Frame) : Option Step := do
  let balance := top.balance - 1
  guard (-((1 <<< (indexBits - 1) : Nat) : Int) ≤ balance)
  return .fail { m with frames := { top with balance } :: outer }
    (if balance < 0 then .invalidSyntax else .undefinedToken ']')

def dispatch? (m : Machine) (token : Token) (top : Frame) (outer : List Frame) : Option Step :=
  let frames := top :: outer
  match token with
  | .increment => do
    return .proceed { m with frames, tape := ← m.tape.modify? Cell.increment? } none
  | .decrement => do
    return .proceed { m with frames, tape := ← m.tape.modify? Cell.decrement? } none
  | .right => do return .proceed { m with frames, tape := ← m.tape.moveRight? indexBits } none
  | .left => do return .proceed { m with frames, tape := ← m.tape.moveLeft? indexBits } none
  | .input =>
    match m.input with
    | [] => some (.fail { m with frames } .emptyInput)
    | char :: input => do
      return .proceed { m with frames, input, tape := ← m.tape.modify? (·.receive? char) } none
  | .output => do
    return .proceed { m with frames, output := m.output.push (← m.tape.current?).char } none
  | .loopStart => m.enterLoop? indexBits top outer
  | .loopEnd => m.strayLoopEnd? indexBits top outer
  | .undefined char => some (.fail { m with frames } (.undefinedToken char))

def retest? (m : Machine) (top : Frame) (outer : List Frame) : Option Step := do
  if (← m.tape.current?).value = 0 then
    let m := { m with frames := outer }
    return .proceed m (some (.leftLoop m.depth))
  else
    return .proceed { m with frames := top.seek 0 :: outer } none

def step? (m : Machine) : Option Step :=
  match m.frames with
  | [] => some (.proceed m none)
  | top :: outer =>
    match top.tokens[top.cursor]?, top.isLoop with
    | some token, _ => m.spend? fun m => do
      let cursor ← sum? indexBits top.cursor 1
      m.dispatch? indexBits token (top.seek cursor) outer
    | none, true => m.spend? fun m => m.retest? top outer
    | none, false => some (.proceed { m with frames := outer } none)

/-! ## Runs -/

/-- The tape is allocated before anything else is done. -/
def start? (settings : Settings) (program input : String) : Option Machine := do
  let tape ← Tape.blank? indexBits settings.initialCells settings.growthChunk settings.cellBits
  return { start settings program input with tape }

/-- Settings that are refused are no reason to stop. -/
def load? (settings : Settings) (program input : String) :
    Option (Except SettingsError Machine) :=
  match settings.check with
  | .error defect => some (.error defect)
  | .ok () => Except.ok <$> start? indexBits settings program input

/-- At most `fuel` calls of `step?`; a run that would take more has no result, but nothing stops it. -/
def runAfter? (earlier : List Event) : (fuel : Nat) → Machine → Option (Option Run)
  | 0, _ => some none
  | fuel + 1, m => do
    let taken ← m.step? indexBits
    let earlier := taken.event.toList ++ earlier
    match taken.answer with
    | .ok true => runAfter? earlier fuel taken.next
    | .ok false => return some (taken.next.finish earlier)
    | .error fault => return some (taken.next.abandon fault earlier)

def run? (fuel : Nat) (m : Machine) : Option (Option Run) :=
  m.runAfter? indexBits [] fuel

end Machine

end TapeMachine

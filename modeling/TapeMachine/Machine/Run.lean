import TapeMachine.Machine.Step

/-! Whole runs. A machine is stepped until nothing is left to run or a step fails, and either way the
pending output is handed over. Programs need not end, so a run has a bound on its steps and no result
beyond it. -/
namespace TapeMachine

structure Run where
  answer : Except Failure String
  machine : Machine
  /-- In the order in which they were reported. -/
  events : List Event

namespace Machine

/-- Nothing is left to run: the output goes out and the machine keeps the rest. -/
def finish (m : Machine) (earlier : List Event) : Run where
  answer := .ok m.output
  machine := { m with output := "" }
  events := (.finished m.steps m.tape.size m.output.length :: earlier).reverse

/-- The output goes out with the fault, and the frames are dropped: there is no going on. -/
def abandon (m : Machine) (fault : Fault) (earlier : List Event) : Run where
  answer := .error ⟨fault, m.output⟩
  machine := { m with frames := [], output := "" }
  events := (.failed m.steps fault :: earlier).reverse

/-- At most `fuel` calls of `step`; `earlier` holds what was reported before, the latest first. -/
def runAfter (earlier : List Event) : (fuel : Nat) → Machine → Option Run
  | 0, _ => none
  | fuel + 1, m =>
    let taken := m.step
    let earlier := taken.event.toList ++ earlier
    match taken.answer with
    | .ok true => runAfter earlier fuel taken.next
    | .ok false => some (taken.next.finish earlier)
    | .error fault => some (taken.next.abandon fault earlier)

def run (fuel : Nat) (m : Machine) : Option Run :=
  m.runAfter [] fuel

end Machine

end TapeMachine

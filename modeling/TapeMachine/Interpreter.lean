import TapeMachine.Machine.Guarded

/-! An interpreter runs programs one after another, each on a machine of its own, with settings that
were checked once. -/
namespace TapeMachine

structure Interpreter where
  settings : Settings
  valid : settings.Valid

namespace Interpreter

def ofSettings (settings : Settings) : Except SettingsError Interpreter :=
  match passed : settings.check with
  | .ok () => .ok ⟨settings, settings.check_eq_ok_iff.1 passed⟩
  | .error defect => .error defect

/-- The interpreter with the default settings. -/
def standard : Interpreter :=
  ⟨{}, by constructor <;> decide⟩

def interpret (interpreter : Interpreter) (fuel : Nat) (program input : String) : Option Run :=
  (Machine.start interpreter.settings program input).runAfter
    [Machine.startEvent interpreter.settings program input] fuel

/-- The same on the machine with guards. -/
def interpret? (indexBits : Nat) (interpreter : Interpreter) (fuel : Nat) (program input : String) :
    Option (Option Run) := do
  let m ← Machine.start? indexBits interpreter.settings program input
  m.runAfter? indexBits [Machine.startEvent interpreter.settings program input] fuel

end Interpreter

end TapeMachine

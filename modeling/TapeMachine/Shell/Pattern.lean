import TapeMachine.Shell.Pattern.Notice
import TapeMachine.Shell.Pattern.Grammar
import TapeMachine.Shell.Pattern.Depth
import TapeMachine.Shell.Pattern.Meaning
import TapeMachine.Shell.Pattern.Extent
import TapeMachine.Shell.Pattern.Search

/-! Search patterns: read from their text, or refused with a reason, and looked for in other texts. -/
namespace TapeMachine

structure Pattern where
  expression : Pattern.Expression
  deriving Repr

namespace Pattern

inductive Refusal where
  | flawed (flaw : Flaw)
  | tooLarge
  /-- It asks for words in letters of all scripts. -/
  | wideWords
  deriving DecidableEq, Repr

def sizeLimit : Nat :=
  10 * 1024 * 1024

def Refusal.message (text : String) : Refusal → String
  | flawed flaw => flaw.notice text
  | tooLarge => s!"Compiled regex exceeds size limit of {sizeLimit} bytes."
  | wideWords => "error building NFA"

/-- What is too large to be read backwards is refused last. -/
def Expression.check (e : Expression) : Except Refusal Unit :=
  if sizeLimit < e.machineSize sizeLimit .forwards then .error .tooLarge
  else if e.asksWideWords then .error .wideWords
  else if sizeLimit < e.machineSize sizeLimit .backwards then .error .tooLarge
  else .ok ()

/-- Reads a pattern: first as a whole, then its depth is checked, then its meaning is told, and at last
its size is checked. -/
def ofText (text : String) : Except Refusal Pattern := do
  let expression ← Except.mapError .flawed do
    let tree ← Tree.ofText text
    tree.checkDepth
    tree.expression
  expression.check
  return ⟨expression⟩

def occursIn (p : Pattern) (text : String) : Bool :=
  p.expression.occursIn text

end Pattern

end TapeMachine

import TapeMachine.Shell.Pattern.Blueprint

/-! How much space an expression would take as a machine that reads bytes, forwards or backwards, which
bounds what is accepted as a pattern. A repetition takes the space of all its turns. -/
namespace TapeMachine.Pattern

namespace Expression

mutual

/-- Begins at the beginning of the text only. -/
def startsAtStart : Expression → Bool
  | look l => l = .textStart
  | times min _ _ body => min != 0 && body.startsAtStart
  | captured body => body.startsAtStart
  | sequence parts => someFrontAtStart parts
  | choice branches => allStartAtStart branches
  | nothing | literal _ | oneOf .. => false

def someFrontAtStart : List Expression → Bool
  | [] => false
  | e :: es => e.startsAtStart || e.takesNothing && someFrontAtStart es

def allStartAtStart : List Expression → Bool
  | [] => true
  | e :: es => e.startsAtStart && allStartAtStart es

end

mutual

/-- Ends at the end of the text only. -/
def endsAtEnd : Expression → Bool
  | look l => l = .textEnd
  | times min _ _ body => min != 0 && body.endsAtEnd
  | captured body => body.endsAtEnd
  | sequence parts => someBackAtEnd parts
  | choice branches => allEndAtEnd branches
  | nothing | literal _ | oneOf .. => false

def someBackAtEnd : List Expression → Bool
  | [] => false
  | e :: es => someBackAtEnd es || e.endsAtEnd && allTakeNothing es

def allEndAtEnd : List Expression → Bool
  | [] => true
  | e :: es => e.endsAtEnd && allEndAtEnd es

end

mutual

def asksWideWords : Expression → Bool
  | look (.word wide _) => wide
  | nothing | literal _ | oneOf .. | look _ => false
  | times _ _ _ body | captured body => body.asksWideWords
  | sequence parts | choice parts => someAskWideWords parts

def someAskWideWords : List Expression → Bool
  | [] => false
  | e :: es => e.asksWideWords || someAskWideWords es

end

/-- The whole machine, which finds the expression anywhere unless it is bound to an end of the text. -/
def machine (d : Direction) (e : Expression) : Blueprint :=
  let bound := if d = .forwards then e.startsAtStart else e.endsAtEnd
  let anywhere :=
    if bound then .state 0 else .repeated 0 none true (.both (.state 0) (.state byteWaySize))
  .all [anywhere, (captured e).blueprint d, .state 0]

/-- The size of the whole machine in bytes, if it is within the limit; otherwise some size beyond the
limit. -/
def machineSize (limit : Nat) (d : Direction) (e : Expression) : Nat :=
  ((e.machine d).build limit {}).bytes

end Expression

end TapeMachine.Pattern

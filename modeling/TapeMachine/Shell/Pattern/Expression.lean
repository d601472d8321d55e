import TapeMachine.Shell.Pattern.Charset

/-! What a search pattern means: expressions over characters, sets of them and looks at the place between
two of them. The ways to build expressions leave out what has no effect and join what can be joined, so
that patterns that are written differently become one expression where that is easy to see. -/
namespace TapeMachine.Pattern

/-- What is asked of the characters on both sides of a place, of which some are parts of words. -/
inductive Boundary where
  | boundary
  | noBoundary
  | wordStart
  | wordEnd
  | wordStartHalf
  | wordEndHalf
  deriving DecidableEq, Repr

inductive Look where
  | textStart
  | textEnd
  /-- With `returns`, a carriage return ends a line as well. -/
  | lineStart (returns : Bool)
  | lineEnd (returns : Bool)
  /-- With `wide`, the letters of all scripts are parts of words. -/
  | word (wide : Bool) (b : Boundary)
  deriving DecidableEq, Repr

inductive Expression where
  | nothing
  /-- These characters, one after the other. -/
  | literal (chars : List Char)
  /-- One character of a set, which is a set of code points if it is `wide` and of bytes if not. -/
  | oneOf (wide : Bool) (set : Charset)
  | look (l : Look)
  | times (min : Nat) (max : Option Nat) (greedy : Bool) (body : Expression)
  | captured (body : Expression)
  | sequence (parts : List Expression)
  | choice (branches : List Expression)
  deriving Repr

namespace Expression

mutual

/-- Written the same in all that matters. What is captured is like nothing else, since it is told
apart. -/
def alike : Expression → Expression → Bool
  | nothing, nothing => true
  | literal s, literal t => s = t
  | oneOf w s, oneOf x t => w = x && s = t
  | look l, look k => l = k
  | times m n g e, times m' n' g' e' => m = m' && n = n' && g = g' && e.alike e'
  | sequence es, sequence fs | choice es, choice fs => allAlike es fs
  | _, _ => false

def allAlike : List Expression → List Expression → Bool
  | [], [] => true
  | e :: es, f :: fs => e.alike f && allAlike es fs
  | _, _ => false

end

mutual

/-- Takes no character, whatever it finds. -/
def takesNothing : Expression → Bool
  | nothing | look _ => true
  | literal _ | oneOf .. => false
  | times _ _ _ body | captured body => body.takesNothing
  | sequence parts | choice parts => allTakeNothing parts

def allTakeNothing : List Expression → Bool
  | [] => true
  | e :: es => e.takesNothing && allTakeNothing es

end

mutual

/-- The least number of characters that it takes; none for what cannot be found at all. -/
def leastLength : Expression → Option Nat
  | nothing | look _ => some 0
  | literal chars => some chars.length
  | oneOf _ set => if set.isEmpty then none else some 1
  | times min _ _ body => body.leastLength.map (min * ·)
  | captured body => body.leastLength
  | sequence parts => sumOfLeast parts
  | choice branches => leastOfLeast branches

def sumOfLeast : List Expression → Option Nat
  | [] => some 0
  | e :: es => do return (← e.leastLength) + (← sumOfLeast es)

def leastOfLeast : List Expression → Option Nat
  | [] => none
  | [e] => e.leastLength
  | e :: es => do return min (← e.leastLength) (← leastOfLeast es)

end

/-- What cannot be found. -/
def impossible : Expression :=
  oneOf false .empty

/-- One character of a set. The only one of its set is just itself. -/
def ofSet (wide : Bool) (set : Charset) : Expression :=
  if set.isEmpty then impossible
  else
    match set.single? with
    | some c => literal [c]
    | none => oneOf wide set

/-- A repetition. What takes no character need not be repeated more than once. -/
def repeated (min : Nat) (max : Option Nat) (greedy : Bool) (body : Expression) : Expression :=
  let (min, max) :=
    if body.takesNothing then (Nat.min min 1, some (Nat.min (max.getD 1) 1)) else (min, max)
  if max = some 0 then nothing
  else if min = 1 ∧ max = some 1 then body
  else times min max greedy body

/-- The parts of a sequence, or the expression itself as the only one. -/
def parts : Expression → List Expression
  | nothing => []
  | sequence es => es
  | e => [e]

def inFront (e : Expression) (others : List Expression) : List Expression :=
  match e, others with
  | literal s, literal t :: rest => literal (s ++ t) :: rest
  | _, _ => e :: others

def inSequence (es : List Expression) : Expression :=
  match (es.flatMap parts).foldr inFront [] with
  | [] => nothing
  | [e] => e
  | es => sequence es

/-! ## Choices -/

/-- The branches of a choice, or the expression itself as the only one. -/
def branches : Expression → List Expression
  | choice es => es
  | e => [e]

def char? : Expression → Option Char
  | literal [c] => some c
  | _ => none

def set? : Expression → Option Charset
  | oneOf _ set => some set
  | _ => none

def sequence? : Expression → Option (List Expression)
  | sequence es => some es
  | _ => none

/-- Characters to choose from are one set, and so are sets of them. -/
def anySet? (es : List Expression) : Option Charset :=
  match es.mapM char? with
  | some chars => some (chars.foldl (fun set c => set.union (.single c)) .empty)
  | none => (es.mapM set?).map fun sets => sets.foldl .union .empty

def choose (es : List Expression) : Expression :=
  match es.flatMap branches with
  | [] => impossible
  | [e] => e
  | es =>
    match anySet? es with
    | some set => ofSet true set
    | none => choice es

def commonParts : List Expression → List Expression → List Expression
  | e :: es, f :: fs => if e.alike f then e :: commonParts es fs else []
  | _, _ => []

def commonBeginning : List (List Expression) → List Expression
  | [] => []
  | es :: others => others.foldl commonParts es

/-- A choice. What sequences to choose from begin with alike comes before the choice. -/
def oneOfAll (es : List Expression) : Expression :=
  match choose es with
  | choice es =>
    let sequences := (es.mapM sequence?).getD []
    let common := commonBeginning sequences
    if common.isEmpty then choice es
    else inSequence (common ++ [choose (sequences.map fun s => inSequence (s.drop common.length))])
  | e => e

end Expression

end TapeMachine.Pattern

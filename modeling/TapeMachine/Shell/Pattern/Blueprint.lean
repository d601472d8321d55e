import TapeMachine.Shell.Pattern.Expression
import TapeMachine.Shell.Pattern.Sharing
import TapeMachine.Shell.Pattern.WordTree

/-! The machine that finds an expression, as far as its size matters: its parts, in the order in which
their states are put in. -/
namespace TapeMachine.Pattern

inductive Blueprint where
  /-- States of a known size. -/
  | known (size : Size)
  /-- The states for a set of characters that take several bytes. -/
  | sequences (d : Direction) (seqs : List ByteSequence)
  | both (first second : Blueprint)
  | copies (count : Nat) (body : Blueprint)
  deriving Repr

namespace Blueprint

def state (ways : Nat) : Blueprint :=
  known (.state ways)

def all (blueprints : List Blueprint) : Blueprint :=
  blueprints.foldr both (known {})

def fork : Blueprint :=
  state (2 * freeWaySize)

/-- A repetition of a body, of which `advances` tells that it takes at least one character. -/
def repeated (min : Nat) (max : Option Nat) (advances : Bool) (body : Blueprint) : Blueprint :=
  match max with
  | none =>
    if min = 0 then
      if advances then both fork body else all [body, fork, fork, state 0]
    else both (copies min body) fork
  | some max =>
    if min = 0 ∧ max = 1 then all [fork, body, state 0]
    else if min = max then copies min body
    else
      all [if min = 0 then state 0 else copies min body, state 0, copies (max - min) (both fork body)]

/-- A choice. What chooses is put in after the first two branches. -/
def choice (branches : List Blueprint) : Blueprint :=
  let chooses := both (state (freeWaySize * branches.length)) (state 0)
  all (branches.take 2 ++ chooses :: branches.drop 2)

end Blueprint

/-- A set of characters that take one byte has one state with all ways and one where they end. -/
def Charset.blueprint (s : Charset) (d : Direction) : Blueprint :=
  if s.intervals.all (·.2 ≤ 0x7F) then
    .both (.state 0) (.state (byteWaySize * s.intervals.length))
  else .sequences d s.byteSequences

namespace Expression

def word? (d : Direction) : Expression → Option Word
  | literal chars =>
    let bytes := chars.flatMap String.utf8EncodeChar
    some (if d = .forwards then bytes else bytes.reverse)
  | _ => none

mutual

def blueprint (d : Direction) : Expression → Blueprint
  | nothing | look _ => .state 0
  | literal chars => .known { states := (chars.map Char.utf8Size).sum }
  | oneOf _ set => set.blueprint d
  | times min max _ body =>
    .repeated min max (body.leastLength.any (0 < ·)) (body.blueprint d)
  | captured body =>
    if d = .forwards then .all [.state 0, body.blueprint d, .state 0] else body.blueprint d
  | sequence parts =>
    let inner := blueprints d parts
    .all (if d = .forwards then inner else inner.reverse)
  | choice branches =>
    match branches.mapM (word? d) with
    | some words => .known (WordTree.size words)
    | none => .choice (blueprints d branches)

def blueprints (d : Direction) : List Expression → List Blueprint
  | [] => []
  | e :: es => e.blueprint d :: blueprints d es

end

end Expression

/-! ## Putting together -/

namespace Size

/-- More is put in so many times, or until the limit is passed. -/
def growWithin (limit : Nat) (put : Size → Size) : Nat → Size → Size
  | 0, s => s
  | count + 1, s => if limit < s.bytes then s else growWithin limit put count (put s)

end Size

namespace Blueprint

/-- The size of a machine after the parts are put in. Once the limit is passed, parts may be left out. -/
def build (limit : Nat) : Blueprint → Size → Size
  | known size, s => s + size
  | sequences d seqs, s => s.withSequences d seqs
  | both first second, s => second.build limit (first.build limit s)
  | copies count body, s => Size.growWithin limit (body.build limit) count s

end Blueprint

end TapeMachine.Pattern

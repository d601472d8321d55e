import Std.Data.HashMap
import TapeMachine.Shell.Pattern.ByteSequence
import TapeMachine.Shell.Pattern.Size

/-! The states for a set of characters that take several bytes. A state that would be like one of the same
set is shared, as far as the one is still kept: there are so many slots to keep states in, and a state
that comes into a slot drives out the one that was there. A state is told by the numbers of the states
that its ways lead to, so that where states are put in matters for what is shared. -/
namespace TapeMachine.Pattern

/-- What a state is like: the ends of the intervals of its ways with the numbers of states. -/
abbrev StateKey := List Nat

namespace StateKey

def hashStart : UInt64 :=
  14695981039346656037

def absorbed (hash : UInt64) (number : Nat) : UInt64 :=
  (hash ^^^ number.toUInt64) * 1099511628211

def slot (key : StateKey) (slots : Nat) : Nat :=
  (key.foldl absorbed hashStart).toNat % slots

end StateKey

def forwardSlots : Nat :=
  10000

def backwardSlots : Nat :=
  1000

structure SharedStates where
  /-- The size of the machine so far; the next state has the number of its states. -/
  size : Size
  /-- The state in each slot, with its number. -/
  kept : Std.HashMap Nat (StateKey × Nat) := {}

abbrev Sharing := StateM SharedStates

namespace Sharing

def newState (ways : Nat) : Sharing Nat := do
  let number := (← get).size.states
  modify fun s => { s with size := s.size + .state ways }
  return number

/-- The number of the state for a key, which is put in unless it is kept in its slot. -/
def stateFor (slots : Nat) (key : StateKey) (ways : Nat) : Sharing Nat := do
  let slot := key.slot slots
  match ((← get).kept[slot]?).filter (·.1 = key) with
  | some (_, number) => return number
  | none =>
    let number ← newState ways
    modify fun s => { s with kept := s.kept.insert slot (key, number) }
    return number

/-! ## Forwards -/

/-- A state for what can be left of the sequences, which are at most so long, after the states that its
ways lead to. At the end all ways lead to the `target`. -/
def forwardsState (target : Nat) : Nat → List ByteSequence → Sharing Nat
  | 0, _ => return target
  | length + 1, sequences => do
    let ways ← (ByteSequence.byFirst sequences).mapM fun (i, tails) => do
      let next ← if tails.all List.isEmpty then pure target else forwardsState target length tails
      return [i.1, i.2, next]
    stateFor forwardSlots ways.flatten (byteWaySize * ways.length)

def forwards (sequences : List ByteSequence) : Sharing Unit := do
  let target ← newState 0
  let _ ← forwardsState target 4 sequences

/-! ## Backwards -/

/-- The states for the bytes of a sequence, from the first byte, which is read last. -/
def backwardsStates (target : Nat) (sequence : ByteSequence) : Sharing Nat :=
  sequence.foldlM (fun next i => stateFor backwardSlots [next, i.1, i.2] 0) target

def backwards (sequences : List ByteSequence) : Sharing Unit := do
  let _ ← newState (freeWaySize * sequences.length)
  let target ← newState 0
  for sequence in sequences do
    let _ ← backwardsStates target sequence

end Sharing

def Size.withSequences (s : Size) (d : Direction) (sequences : List ByteSequence) : Size :=
  let put :=
    match d with
    | .forwards => Sharing.forwards sequences
    | .backwards => Sharing.backwards sequences
  (put.run { size := s }).2.size

end TapeMachine.Pattern

/-! The size of a machine that reads bytes: its states, and the ways that lead from one to another. -/
namespace TapeMachine.Pattern

inductive Direction where
  | forwards
  | backwards
  deriving DecidableEq, Repr

def stateSize : Nat :=
  32

/-- The bytes that a way takes if it is open to an interval of bytes only. -/
def byteWaySize : Nat :=
  8

/-- The bytes that a way takes if it is always open. -/
def freeWaySize : Nat :=
  4

structure Size where
  states : Nat := 0
  /-- The bytes that all ways take. -/
  ways : Nat := 0
  deriving DecidableEq, Repr

namespace Size

def state (ways : Nat) : Size where
  states := 1
  ways := ways

def add (s t : Size) : Size where
  states := s.states + t.states
  ways := s.ways + t.ways

instance : Add Size :=
  ⟨add⟩

def sum (sizes : List Size) : Size :=
  sizes.foldl add {}

def bytes (s : Size) : Nat :=
  stateSize * s.states + s.ways

theorem bytes_add (s t : Size) : (s + t).bytes = s.bytes + t.bytes := by
  show stateSize * (s.states + t.states) + (s.ways + t.ways) = _
  simp only [bytes, Nat.mul_add]
  omega

end Size

end TapeMachine.Pattern

import TapeMachine.Memory.Tape

/-! Cells and tapes in words of a fixed size and in memory that ends. Before every operation that can fail or
overflow, and before every allocation, stands a guard; an operation whose guard does not hold gives
nothing. -/
namespace TapeMachine

/-- A sum that must be a word of so many bits. -/
def sum? (bits a b : Nat) : Option Nat :=
  if a + b < 1 <<< bits then some (a + b) else none

/-- A difference that must not lie below zero. -/
def difference? (a b : Nat) : Option Nat :=
  if b ≤ a then some (a - b) else none

/-- Cells have eight bytes each, and no allocation has more bytes than the largest signed word says. -/
def InMemory (indexBits cells : Nat) : Prop :=
  8 * cells < 1 <<< (indexBits - 1)

instance (indexBits cells : Nat) : Decidable (InMemory indexBits cells) :=
  inferInstanceAs (Decidable (_ < _))

/-- The length of a tape that grows, which must be a word and in memory. -/
def longer? (indexBits size chunk : Nat) : Option Nat := do
  let longer ← sum? indexBits size chunk
  guard (InMemory indexBits longer)
  return longer

/-! ## Cells -/

namespace Cell

/-- No cell is made of another width than cells have. -/
def blank? (width : Nat) : Option Cell :=
  if 1 ≤ width ∧ width ≤ 32 then some (.blank width) else none

/-- The shift is by less than the word has bits, and the upper half of the word is zero. -/
def top? (c : Cell) : Option UInt32 := do
  guard (c.width < 64)
  let modulus := (1 : UInt64) <<< UInt64.ofNat c.width
  let top ← difference? modulus.toNat 1
  guard (top < UInt32.size)
  return .ofNat top

def increment? (c : Cell) : Option Cell := do
  if c.value = (← c.top?) then
    return { c with value := 0 }
  else
    let value ← sum? 32 c.value.toNat 1
    return { c with value := .ofNat value }

def decrement? (c : Cell) : Option Cell := do
  if c.value = 0 then
    return { c with value := ← c.top? }
  else
    let value ← difference? c.value.toNat 1
    return { c with value := .ofNat value }

/-- The modulus is positive, and the remainder fits in half a word. -/
def fill? (c : Cell) (value : Int64) : Option Cell := do
  guard (c.width < 64)
  let modulus := (1 : Int64) <<< Int64.ofNat c.width
  guard (0 < modulus)
  let remainder := euclideanRemainder value modulus
  guard (0 ≤ remainder.toInt ∧ remainder.toInt < UInt32.size)
  return { c with value := remainder.toUInt64.toUInt32 }

/-- The code of a character fills the cell. -/
def receive? (c : Cell) (char : Char) : Option Cell :=
  c.fill? (Int64.ofNat char.toNat)

end Cell

/-! ## The tape -/

namespace Tape

variable (indexBits : Nat)

/-- A tape that cannot start or grow is not made. -/
def blank? (size chunk width : Nat) : Option Tape := do
  guard (0 < size ∧ 0 < chunk)
  let cell ← Cell.blank? width
  guard (InMemory indexBits size)
  return ⟨Array.replicate size cell, 0, chunk, width⟩

def current? (t : Tape) : Option Cell :=
  t.cells[t.pointer]?

def modify? (t : Tape) (change? : Cell → Option Cell) : Option Tape := do
  let changed ← change? (← t.current?)
  return t.modify fun _ => changed

def moveRight? (t : Tape) : Option Tape := do
  let pointer ← sum? indexBits t.pointer 1
  if t.size ≤ pointer then
    let size ← longer? indexBits t.size t.chunk
    let cell ← Cell.blank? t.width
    return { t with cells := t.cells ++ Array.replicate (size - t.size) cell, pointer }
  else
    return { t with pointer }

def moveLeft? (t : Tape) : Option Tape := do
  if t.pointer = 0 then
    let cell ← Cell.blank? t.width
    let _ ← longer? indexBits t.size t.chunk
    let pointer ← difference? t.chunk 1
    return { t with cells := Array.replicate t.chunk cell ++ t.cells, pointer }
  else
    return { t with pointer := ← difference? t.pointer 1 }

end Tape

end TapeMachine

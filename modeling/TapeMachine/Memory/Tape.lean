import TapeMachine.Memory.Cell

/-! A tape of equal cells under a pointer, growing by whole chunks of blank cells at either end. Growth
on the left renumbers the cells, so an index names a cell only until the next move. Here there is memory for
every tape; guards for the end of memory stand before the same operations in `Tape.moveRight?` and the
others. -/
namespace TapeMachine

structure Tape where
  cells : Array Cell
  pointer : Nat
  chunk : Nat
  width : Nat
  deriving DecidableEq, Repr

namespace Tape

def blank (size chunk width : Nat) : Tape :=
  ⟨Array.replicate size (.blank width), 0, chunk, width⟩

def size (t : Tape) : Nat :=
  t.cells.size

def values (t : Tape) : List UInt32 :=
  t.cells.toList.map Cell.value

/-- The cell under the pointer. -/
def current (t : Tape) : Cell :=
  t.cells.getD t.pointer (.blank t.width)

/-- Changes the cell under the pointer. -/
def modify (t : Tape) (change : Cell → Cell) : Tape :=
  { t with cells := t.cells.modify t.pointer change }

def blankChunk (t : Tape) : Array Cell :=
  Array.replicate t.chunk (.blank t.width)

/-- A move beyond the last cell first adds a chunk behind it. -/
def moveRight (t : Tape) : Tape :=
  if t.size ≤ t.pointer + 1 then
    { t with cells := t.cells ++ t.blankChunk, pointer := t.pointer + 1 }
  else
    { t with pointer := t.pointer + 1 }

/-- A move before the first cell puts a chunk there and lands on its last cell. -/
def moveLeft (t : Tape) : Tape :=
  if t.pointer = 0 then
    { t with cells := t.blankChunk ++ t.cells, pointer := t.chunk - 1 }
  else
    { t with pointer := t.pointer - 1 }

theorem modify_size (t : Tape) (change : Cell → Cell) : (t.modify change).size = t.size := by
  simp [modify, size]

theorem moveRight_size (t : Tape) :
    t.moveRight.size = if t.size ≤ t.pointer + 1 then t.size + t.chunk else t.size := by
  unfold moveRight
  split <;> simp [size, blankChunk]

theorem moveLeft_size (t : Tape) :
    t.moveLeft.size = if t.pointer = 0 then t.chunk + t.size else t.size := by
  unfold moveLeft
  split <;> simp [size, blankChunk]

/-- A pointer inside the tape stays inside, whichever way it moves. -/
theorem pointer_lt_size_moves (t : Tape) (grows : 0 < t.chunk) (inside : t.pointer < t.size) :
    t.moveRight.pointer < t.moveRight.size ∧ t.moveLeft.pointer < t.moveLeft.size := by
  rw [moveRight_size, moveLeft_size]
  unfold moveRight moveLeft
  constructor <;> split <;> simp <;> omega

end Tape

end TapeMachine

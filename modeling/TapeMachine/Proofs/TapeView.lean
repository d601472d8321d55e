import TapeMachine.Memory.Tape

/-! A tape seen from its pointer, with blank cells beyond both ends. Every operation acts on the view
alone: how long the tape is and where it grows cannot be seen. -/
namespace TapeMachine

namespace Tape

/-- The cell at a distance from the pointer. -/
def view (t : Tape) (distance : Int) : Cell :=
  if 0 ≤ t.pointer + distance then t.cells.getD (t.pointer + distance).toNat (.blank t.width)
  else .blank t.width

/-- The pointer is inside, and the tape can grow. -/
structure Sound (t : Tape) : Prop where
  inside : t.pointer < t.size
  grows : 0 < t.chunk

def growRight (t : Tape) : Tape :=
  { t with cells := t.cells ++ t.blankChunk }

/-- The pointer stays at its cell, whose index changes. -/
def growLeft (t : Tape) : Tape :=
  { t with cells := t.blankChunk ++ t.cells, pointer := t.pointer + t.chunk }

section View

variable {t : Tape} {distance : Int}

theorem view_of_index {index : Nat} (reached : t.pointer + distance = index) :
    t.view distance = t.cells.getD index (.blank t.width) := by
  rw [view, reached, if_pos (Int.natCast_nonneg index), Int.toNat_natCast]

theorem view_before (before : t.pointer + distance < 0) : t.view distance = .blank t.width :=
  if_neg (Int.not_le.2 before)

theorem view_behind (behind : t.size ≤ t.pointer + distance) : t.view distance = .blank t.width := by
  have reached : t.pointer + distance = ((t.pointer + distance).toNat : Int) := by omega
  rw [view_of_index reached, Array.getD_eq_getD_getElem?, Array.getElem?_eq_none, Option.getD_none]
  rw [size] at behind
  omega

theorem view_zero : t.view 0 = t.current :=
  view_of_index (Int.add_zero _)

theorem view_blank (size chunk width : Nat) : (blank size chunk width).view distance = .blank width := by
  simp only [view, blank, Array.getD_eq_getD_getElem?, Array.getElem?_replicate]
  split
  · split <;> rfl
  · rfl

theorem view_modify (sound : t.Sound) (change : Cell → Cell) :
    (t.modify change).view distance = if distance = 0 then change t.current else t.view distance := by
  have inside := sound.inside
  rw [size] at inside
  by_cases before : t.pointer + distance < 0
  · rw [if_neg (by omega), view_before before]
    exact view_before before
  · obtain ⟨index, reached⟩ := Int.eq_ofNat_of_zero_le (Int.not_lt.1 before)
    rw [view_of_index reached, @view_of_index (t.modify change) distance index reached]
    simp only [modify, current, Array.getD_eq_getD_getElem?, Array.getElem?_modify]
    by_cases here : t.pointer = index
    · subst here
      rw [if_pos rfl, if_pos (by omega), Array.getElem?_eq_getElem inside]
      rfl
    · rw [if_neg here, if_neg (by omega)]

theorem view_pointer {pointer : Nat} {moved : Int} (same : (pointer : Int) = t.pointer + moved) :
    { t with pointer := pointer }.view distance = t.view (distance + moved) := by
  have index : (pointer : Int) + distance = t.pointer + (distance + moved) := by omega
  simp only [view, index]

theorem view_growRight : t.growRight.view distance = t.view distance := by
  simp only [view, growRight, blankChunk, Array.getD_eq_getD_getElem?, Array.getElem?_append,
    Array.getElem?_replicate]
  split
  · split
    · rfl
    · rename_i beyond
      rw [Array.getElem?_eq_none (Nat.le_of_not_lt beyond)]
      split <;> rfl
  · rfl

theorem view_growLeft : t.growLeft.view distance = t.view distance := by
  by_cases before : t.pointer + distance < 0
  · rw [view_before before]
    simp only [view, growLeft, blankChunk, Array.getD_eq_getD_getElem?, Array.getElem?_append,
      Array.getElem?_replicate, Array.size_replicate]
    split
    · rw [if_pos (by omega), if_pos (by omega)]
      rfl
    · rfl
  · obtain ⟨index, reached⟩ := Int.eq_ofNat_of_zero_le (Int.not_lt.1 before)
    have renumbered : t.growLeft.pointer + distance = ((index + t.chunk : Nat) : Int) := by
      simp only [growLeft]
      omega
    rw [view_of_index reached, view_of_index renumbered]
    have later : ¬index + t.chunk < t.chunk := by omega
    simp [growLeft, blankChunk, Array.getElem?_append, later]

theorem view_moveRight : t.moveRight.view distance = t.view (distance + 1) := by
  unfold moveRight
  split
  · exact (@view_pointer t.growRight distance (t.pointer + 1) 1 rfl).trans view_growRight
  · exact view_pointer rfl

theorem view_moveLeft (sound : t.Sound) : t.moveLeft.view distance = t.view (distance - 1) := by
  have grows := sound.grows
  unfold moveLeft
  split
  · have landing : ((t.chunk - 1 : Nat) : Int) = t.growLeft.pointer + (-1) := by
      simp only [growLeft]
      omega
    exact (view_pointer landing).trans view_growLeft
  · exact view_pointer (by omega)

end View

namespace Sound

variable {t : Tape}

theorem blank {size chunk : Nat} (cells : 0 < size) (grows : 0 < chunk) (width : Nat) :
    (Tape.blank size chunk width).Sound :=
  ⟨by simpa [Tape.blank, Tape.size] using cells, grows⟩

theorem modify (sound : t.Sound) (change : Cell → Cell) : (t.modify change).Sound :=
  ⟨by rw [modify_size]; exact sound.inside, sound.grows⟩

theorem moveRight (sound : t.Sound) : t.moveRight.Sound := by
  refine ⟨(t.pointer_lt_size_moves sound.grows sound.inside).1, ?_⟩
  unfold Tape.moveRight
  split <;> exact sound.grows

theorem moveLeft (sound : t.Sound) : t.moveLeft.Sound := by
  refine ⟨(t.pointer_lt_size_moves sound.grows sound.inside).2, ?_⟩
  unfold Tape.moveLeft
  split <;> exact sound.grows

end Sound

structure Alike (t t' : Tape) : Prop where
  sound : t.Sound
  sound' : t'.Sound
  view : ∀ distance, t.view distance = t'.view distance

namespace Alike

variable {t t' : Tape}

theorem symm (alike : t.Alike t') : t'.Alike t :=
  ⟨alike.sound', alike.sound, fun distance => (alike.view distance).symm⟩

theorem current (alike : t.Alike t') : t.current = t'.current := by
  rw [← view_zero, ← view_zero, alike.view]

theorem modify (alike : t.Alike t') (change : Cell → Cell) :
    (t.modify change).Alike (t'.modify change) := by
  refine ⟨alike.sound.modify change, alike.sound'.modify change, fun distance => ?_⟩
  rw [view_modify alike.sound, view_modify alike.sound', alike.current, alike.view]

theorem moveRight (alike : t.Alike t') : t.moveRight.Alike t'.moveRight := by
  refine ⟨alike.sound.moveRight, alike.sound'.moveRight, fun distance => ?_⟩
  rw [view_moveRight, view_moveRight, alike.view]

theorem moveLeft (alike : t.Alike t') : t.moveLeft.Alike t'.moveLeft := by
  refine ⟨alike.sound.moveLeft, alike.sound'.moveLeft, fun distance => ?_⟩
  rw [view_moveLeft alike.sound, view_moveLeft alike.sound', alike.view]

end Alike

end Tape

end TapeMachine

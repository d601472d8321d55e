/-! What a machine is built with: the width of its cells, the shape of its tape and an optional limit
on its steps. A check refuses widths no cell has and tapes that cannot start or grow. -/
namespace TapeMachine

structure Settings where
  cellBits : Nat := 8
  initialCells : Nat := 10
  growthChunk : Nat := 5
  stepLimit : Option UInt64 := none
  deriving DecidableEq, Repr

inductive SettingsError where
  | cellWidth (bits : Nat)
  | noInitialCell
  | noGrowth
  deriving DecidableEq, Repr

def SettingsError.message : SettingsError → String
  | cellWidth bits => s!"cell width must be between 1 and 32 bits, got {bits}"
  | noInitialCell => "tape must start with at least one cell"
  | noGrowth => "tape growth chunk must be at least one cell"

namespace Settings

structure Valid (s : Settings) : Prop where
  width_pos : 1 ≤ s.cellBits
  width_le : s.cellBits ≤ 32
  cells_pos : 0 < s.initialCells
  chunk_pos : 0 < s.growthChunk

/-- The width is looked at first, then the cells at the start, then the chunk. -/
def check (s : Settings) : Except SettingsError Unit :=
  if s.cellBits < 1 ∨ 32 < s.cellBits then .error (.cellWidth s.cellBits)
  else if s.initialCells = 0 then .error .noInitialCell
  else if s.growthChunk = 0 then .error .noGrowth
  else .ok ()

theorem check_eq_ok_iff (s : Settings) : s.check = .ok () ↔ s.Valid := by
  unfold check
  constructor
  · intro passed
    split at passed
    · simp at passed
    split at passed
    · simp at passed
    split at passed
    · simp at passed
    exact ⟨by omega, by omega, by omega, by omega⟩
  · rintro ⟨_, _, _, _⟩
    rw [if_neg (by omega), if_neg (by omega), if_neg (by omega)]

end Settings

end TapeMachine

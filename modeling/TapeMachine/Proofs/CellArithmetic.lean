import Mathlib.Algebra.Group.Nat.Defs
import Mathlib.Algebra.Ring.Int.Defs
import TapeMachine.Memory.Cell

/-! The arithmetic of cells in machine words, read as arithmetic modulo a power of two. Widths beyond
thirty-two are not considered. -/
namespace TapeMachine

theorem euclideanRemainder_toInt (value modulus : Int64) (positive : 0 < modulus.toInt) :
    (euclideanRemainder value modulus).toInt = value.toInt % modulus.toInt := by
  have remainder : (value % modulus).toInt = value.toInt.tmod modulus.toInt :=
    Int64.toInt_mod value modulus
  have euclidean := @Int.tmod_eq_emod value.toInt modulus.toInt
  have lower := Int.emod_nonneg value.toInt (by omega : modulus.toInt ≠ 0)
  have upper := Int.emod_lt_of_pos value.toInt positive
  have bound := modulus.toInt_lt
  simp only [euclideanRemainder, Int64.lt_iff_toInt_lt, Int64.toInt_zero, remainder]
  split at euclidean
  · rw [if_neg (by omega), remainder]
    omega
  · rw [if_pos (by omega), Int64.toInt_add, remainder, Int.bmod_eq_of_le] <;> omega

namespace Cell

theorem top_toNat (c : Cell) (narrow : c.width ≤ 32) : c.top.toNat = 2 ^ c.width - 1 := by
  have each : ∀ w : Fin 33,
      ((1 : UInt64) <<< UInt64.ofNat w - 1).toUInt32.toNat = 2 ^ w.val - 1 := by decide
  exact each ⟨c.width, by omega⟩

theorem increment_toNat (c : Cell) (narrow : c.width ≤ 32) (inside : c.value.toNat < 2 ^ c.width) :
    c.increment.value.toNat = (c.value.toNat + 1) % 2 ^ c.width := by
  have top := c.top_toNat narrow
  have bound : 2 ^ c.width ≤ 2 ^ 32 := Nat.pow_le_pow_right (by decide) narrow
  unfold increment
  split
  · rename_i full
    have full : c.value.toNat + 1 = 2 ^ c.width := by rw [full, top]; omega
    simp [full]
  · rename_i room
    have room : c.value.toNat ≠ c.top.toNat := fun same => room (UInt32.toNat_inj.1 same)
    rw [UInt32.toNat_add]
    change (c.value.toNat + 1) % 2 ^ 32 = _
    rw [Nat.mod_eq_of_lt (by omega), Nat.mod_eq_of_lt (by omega)]

theorem decrement_toNat (c : Cell) (narrow : c.width ≤ 32) (inside : c.value.toNat < 2 ^ c.width) :
    c.decrement.value.toNat = (c.value.toNat + (2 ^ c.width - 1)) % 2 ^ c.width := by
  have top := c.top_toNat narrow
  have bound : 2 ^ c.width ≤ 2 ^ 32 := Nat.pow_le_pow_right (by decide) narrow
  unfold decrement
  split
  · rename_i empty
    have empty : c.value.toNat = 0 := by rw [empty]; rfl
    rw [empty, top, Nat.mod_eq_of_lt (by omega), Nat.zero_add]
  · rename_i full
    have full : c.value.toNat ≠ 0 := fun same => full (UInt32.toNat_inj.1 same)
    have whole : c.value.toNat + (2 ^ c.width - 1) = c.value.toNat - 1 + 2 ^ c.width := by omega
    rw [whole, Nat.add_mod_right, Nat.mod_eq_of_lt (by omega), UInt32.toNat_sub]
    change (2 ^ 32 - 1 + c.value.toNat) % 2 ^ 32 = _
    omega

theorem fill_toNat (c : Cell) (value : Int64) (narrow : c.width ≤ 32) :
    ((c.fill value).value.toNat : Int) = value.toInt % 2 ^ c.width := by
  have each : ∀ w : Fin 33, ((1 : Int64) <<< Int64.ofNat w).toInt = 2 ^ w.val := by decide
  have modulus : ((1 : Int64) <<< Int64.ofNat c.width).toInt = 2 ^ c.width :=
    each ⟨c.width, by omega⟩
  have positive : (0 : Int) < 2 ^ c.width := Int.pow_pos (by decide)
  have remainder := euclideanRemainder_toInt value _ (modulus ▸ positive)
  rw [modulus] at remainder
  have lower := Int.emod_nonneg value.toInt (by omega : (2 : Int) ^ c.width ≠ 0)
  have upper := Int.emod_lt_of_pos value.toInt positive
  have natural : 2 ^ c.width ≤ 2 ^ 32 := Nat.pow_le_pow_right (by decide) narrow
  have bound : (2 : Int) ^ c.width ≤ 2 ^ 32 := by exact_mod_cast natural
  simp only [fill, UInt64.toNat_toUInt32]
  generalize euclideanRemainder value (1 <<< Int64.ofNat c.width) = r at remainder
  have view : r.toInt = _ := BitVec.toInt_eq_toNat_cond r.toBitVec
  have same : r.toUInt64.toNat = r.toBitVec.toNat := rfl
  have range := r.toBitVec.isLt
  split at view <;> omega

/-- Counting up and down, over the integers. -/
theorem increment_toInt (c : Cell) (narrow : c.width ≤ 32) (inside : c.value.toNat < 2 ^ c.width) :
    (c.increment.value.toNat : Int) = (c.value.toNat + 1) % 2 ^ c.width := by
  rw [c.increment_toNat narrow inside]
  push_cast
  rfl

theorem decrement_toInt (c : Cell) (narrow : c.width ≤ 32) (inside : c.value.toNat < 2 ^ c.width) :
    (c.decrement.value.toNat : Int) = (c.value.toNat - 1) % 2 ^ c.width := by
  have positive : 1 ≤ 2 ^ c.width := Nat.one_le_two_pow
  have whole : (c.value.toNat : Int) + (2 ^ c.width - 1) = c.value.toNat - 1 + 2 ^ c.width := by omega
  rw [c.decrement_toNat narrow inside]
  push_cast [positive]
  rw [whole, Int.add_emod_right]

end Cell

end TapeMachine

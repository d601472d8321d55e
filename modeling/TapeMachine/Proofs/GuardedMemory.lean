import TapeMachine.Memory.Guarded
import TapeMachine.Proofs.WordBounds

/-! What the guards of cells and tapes let through. On a cell that fits, all of them hold. A tape that fits
and is in memory is stopped only where it would grow, and exactly if the longer tape would not be in
memory. -/
namespace TapeMachine

theorem sum?_eq {bits a b : Nat} (inside : a + b < 2 ^ bits) : sum? bits a b = some (a + b) :=
  if_pos (by rwa [Nat.one_shiftLeft])

theorem sum?_eq_none {bits a b : Nat} (outside : ¬a + b < 2 ^ bits) : sum? bits a b = none :=
  if_neg (by rwa [Nat.one_shiftLeft])

theorem difference?_eq {a b : Nat} (ordered : b ≤ a) : difference? a b = some (a - b) :=
  if_pos ordered

/-- An index just behind a sequence is a word if the length of the sequence is a signed word. -/
theorem two_pow_room {length indexBits : Nat} (nonempty : 0 < length)
    (short : length < 2 ^ (indexBits - 1)) : length + 1 < 2 ^ indexBits := by
  cases indexBits with
  | zero =>
    rw [Nat.zero_sub, Nat.pow_zero] at short
    omega
  | succ bits =>
    rw [Nat.add_sub_cancel] at short
    rw [Nat.pow_succ]
    omega

section Memory

variable {indexBits cells fewer size chunk : Nat}

theorem inMemory_iff : InMemory indexBits cells ↔ 8 * cells < 2 ^ (indexBits - 1) := by
  rw [InMemory, Nat.one_shiftLeft]

theorem inMemory_iff_of_eq {length : Int} (count : (cells : Int) = length) :
    InMemory indexBits cells ↔ 8 * length < 2 ^ (indexBits - 1) := by
  rw [inMemory_iff, ← count]
  exact_mod_cast Iff.rfl

theorem InMemory.mono (held : InMemory indexBits cells) (less : fewer ≤ cells) :
    InMemory indexBits fewer :=
  Nat.lt_of_le_of_lt (Nat.mul_le_mul_left 8 less) held

theorem InMemory.word (held : InMemory indexBits cells) : cells < 2 ^ indexBits := by
  have signed : 2 ^ (indexBits - 1) ≤ 2 ^ indexBits := Nat.pow_le_pow_right (by decide) (Nat.sub_le ..)
  rw [inMemory_iff] at held
  omega

theorem InMemory.room (held : InMemory indexBits cells) (nonempty : 0 < cells) :
    cells + 1 < 2 ^ indexBits := by
  rw [inMemory_iff] at held
  exact two_pow_room nonempty (by omega)

/-- A length in memory is a word, so that guard is the one that decides. -/
theorem longer?_eq : longer? indexBits size chunk =
    if InMemory indexBits (size + chunk) then some (size + chunk) else none := by
  by_cases held : InMemory indexBits (size + chunk)
  · rw [longer?, sum?_eq held.word, if_pos held]
    simp [guard, held]
  · rw [longer?, sum?, if_neg held]
    split <;> simp [guard, held]

end Memory

/-! ## Cells -/

namespace Cell

variable {c : Cell} {width : Nat}

theorem blank?_eq (least : 1 ≤ width) (most : width ≤ 32) : blank? width = some (.blank width) :=
  if_pos ⟨least, most⟩

theorem top?_eq (narrow : c.width ≤ 32) : c.top? = some c.top := by
  have each : ∀ w : Fin 33, top? ⟨w, 0⟩ = some (top ⟨w, 0⟩) := by decide
  exact each ⟨c.width, by omega⟩

example : top? ⟨33, 0⟩ = none := by decide

theorem increment?_eq (fits : c.Fits width) (narrow : width ≤ 32) :
    c.increment? = some c.increment := by
  obtain ⟨rfl, inside⟩ := fits
  rw [increment?, top?_eq narrow, increment]
  by_cases full : c.value = c.top
  · simp [full]
  · have top := c.top_toNat narrow
    have bound : 2 ^ c.width ≤ 2 ^ 32 := Nat.pow_le_pow_right (by decide) narrow
    have below : c.value.toNat ≠ c.top.toNat := fun same => full (UInt32.toNat_inj.1 same)
    have room : sum? 32 c.value.toNat 1 = some (c.value.toNat + 1) := sum?_eq (by omega)
    simp [full, room]

theorem decrement?_eq (fits : c.Fits width) (narrow : width ≤ 32) :
    c.decrement? = some c.decrement := by
  obtain ⟨rfl, -⟩ := fits
  rw [decrement?, top?_eq narrow, decrement]
  by_cases empty : c.value = 0
  · simp [empty]
  · have positive : c.value.toNat ≠ 0 := fun zero => empty (UInt32.toNat_inj.1 zero)
    have room : difference? c.value.toNat 1 = some (c.value.toNat - 1) := difference?_eq (by omega)
    have same : UInt32.ofNat (c.value.toNat - 1) = c.value - 1 := by
      rw [UInt32.ofNat_sub (by omega)]
      simp
    simp [empty, room, same]

theorem fill?_eq (fits : c.Fits width) (narrow : width ≤ 32) (value : Int64) :
    c.fill? value = some (c.fill value) := by
  obtain ⟨rfl, -⟩ := fits
  have each : ∀ w : Fin 33, 0 < ((1 : Int64) <<< Int64.ofNat w).toInt ∧
      ((1 : Int64) <<< Int64.ofNat w).toInt ≤ UInt32.size := by decide
  obtain ⟨positive, bound⟩ := each ⟨c.width, by omega⟩
  have remainder := euclideanRemainder_toInt value _ positive
  have lower := Int.emod_nonneg value.toInt (Int.ne_of_gt positive)
  have upper := Int.emod_lt_of_pos value.toInt positive
  rw [← remainder] at lower upper
  have shift : c.width < 64 := by omega
  have modulus : (0 : Int64) < 1 <<< Int64.ofNat c.width := Int64.lt_iff_toInt_lt.2 positive
  have half := And.intro lower (Int.lt_of_lt_of_le upper bound)
  simp only [fill?, guard, if_pos shift, if_pos modulus, if_pos half]
  rfl

end Cell

/-! ## The tape -/

namespace Tape

section Cells

variable {t : Tape}

theorem current?_eq (inside : t.pointer < t.size) : t.current? = some t.current := by
  rw [size] at inside
  rw [current?, current, Array.getD_eq_getD_getElem?, Array.getElem?_eq_getElem inside,
    Option.getD_some]

theorem modify_const (inside : t.pointer < t.size) (change : Cell → Cell) :
    (t.modify fun _ => change t.current) = t.modify change := by
  have here := current?_eq inside
  have same : (t.cells.modify t.pointer fun _ => change t.current) =
      t.cells.modify t.pointer change := by
    refine Array.ext_getElem? fun index => ?_
    rw [Array.getElem?_modify, Array.getElem?_modify]
    by_cases pointed : t.pointer = index
    · subst pointed
      rw [current?] at here
      rw [if_pos rfl, if_pos rfl, here]
      rfl
    · rw [if_neg pointed, if_neg pointed]
  rw [modify, modify, same]

theorem modify?_eq {change? : Cell → Option Cell} {change : Cell → Cell}
    (inside : t.pointer < t.size) (changed : change? t.current = some (change t.current)) :
    t.modify? change? = some (t.modify change) := by
  rw [← modify_const inside change]
  simp [modify?, current?_eq inside, changed]

end Cells

section Moves

variable {indexBits : Nat} {settings : Settings} {t : Tape}

theorem blank?_eq (valid : settings.Valid) :
    blank? indexBits settings.initialCells settings.growthChunk settings.cellBits =
      if InMemory indexBits settings.initialCells then
        some (.blank settings.initialCells settings.growthChunk settings.cellBits)
      else none := by
  obtain ⟨least, most, cells, chunk⟩ := valid
  rw [blank?, Cell.blank?_eq least most]
  by_cases held : InMemory indexBits settings.initialCells
  · rw [if_pos held]
    simp [guard, cells, chunk, held, blank]
  · rw [if_neg held]
    simp [guard, cells, chunk, held]

theorem Fits.blank?_eq (valid : settings.Valid) (fits : t.Fits settings) :
    Cell.blank? t.width = some (.blank t.width) := by
  rw [fits.width_eq]
  exact Cell.blank?_eq valid.width_pos valid.width_le

theorem moveRight?_eq (valid : settings.Valid) (fits : t.Fits settings)
    (held : InMemory indexBits t.size) :
    t.moveRight? indexBits =
      if InMemory indexBits t.moveRight.size then some t.moveRight else none := by
  have inside := fits.sound.inside
  have blank := fits.blank?_eq valid
  have room := held.room (by omega)
  have pointer : sum? indexBits t.pointer 1 = some (t.pointer + 1) := sum?_eq (by omega)
  rw [moveRight_size, moveRight?, pointer, moveRight, longer?_eq]
  by_cases last : t.size ≤ t.pointer + 1
  · by_cases roomy : InMemory indexBits (t.size + t.chunk)
    · simp [last, roomy, blank, blankChunk]
    · simp [last, roomy]
  · simp [last, held]

theorem moveLeft?_eq (valid : settings.Valid) (fits : t.Fits settings)
    (held : InMemory indexBits t.size) :
    t.moveLeft? indexBits =
      if InMemory indexBits t.moveLeft.size then some t.moveLeft else none := by
  have grows := fits.sound.grows
  have blank := fits.blank?_eq valid
  have landing : difference? t.chunk 1 = some (t.chunk - 1) := difference?_eq grows
  rw [moveLeft_size, moveLeft?, moveLeft, longer?_eq, Nat.add_comm t.chunk]
  by_cases first : t.pointer = 0
  · by_cases roomy : InMemory indexBits (t.size + t.chunk)
    · simp [first, roomy, blank, landing, blankChunk]
    · simp [first, roomy, blank]
  · have pointer : difference? t.pointer 1 = some (t.pointer - 1) := difference?_eq (by omega)
    simp [first, pointer, held]

end Moves

end Tape

end TapeMachine

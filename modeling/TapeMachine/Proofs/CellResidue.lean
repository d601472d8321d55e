import Mathlib.Data.List.DropRight
import Mathlib.Logic.Function.Iterate
import TapeMachine.Proofs.GuardedMemory

/-! A cell as an integer modulo the number of its values. An increment or a decrement adds the same amount
to every cell of a width; amounts add up when operations follow each other, and a whole number of turns
gives every cell back as it was. -/
namespace TapeMachine

/-- What can be done with a cell. -/
inductive CellAction where
  | increment
  | decrement
  | fill (value : Int64)
  deriving DecidableEq, Repr

namespace CellAction

def filled? : CellAction → Option Int64
  | fill value => some value
  | increment | decrement => none

/-- The number filled in last, zero if there is none. -/
def lastFilled (actions : List CellAction) : Int :=
  ((actions.filterMap filled?).getLastD 0).toInt

/-- The increments and decrements behind the last fill. -/
def sinceFilled (actions : List CellAction) : List CellAction :=
  actions.rtakeWhile fun action => action.filled?.isNone

/-- The integer that the actions come to. -/
def total (actions : List CellAction) : Int :=
  lastFilled actions + (sinceFilled actions).count increment - (sinceFilled actions).count decrement

section Total

variable (actions : List CellAction)

theorem total_counting {action : CellAction} (counts : action.filled? = none) :
    total (actions ++ [action]) =
      total actions + [action].count increment - [action].count decrement := by
  have since : sinceFilled (actions ++ [action]) = sinceFilled actions ++ [action] :=
    List.rtakeWhile_concat_pos _ _ _ (by rw [counts]; rfl)
  have last : lastFilled (actions ++ [action]) = lastFilled actions := by
    simp [lastFilled, counts]
  rw [total, total, since, last, List.count_append, List.count_append]
  push_cast
  omega

theorem total_increment : total (actions ++ [increment]) = total actions + 1 :=
  (total_counting actions rfl).trans (Int.sub_zero _)

theorem total_decrement : total (actions ++ [decrement]) = total actions - 1 := by
  have counted : total (actions ++ [decrement]) = total actions + 0 - 1 := total_counting actions rfl
  rwa [Int.add_zero] at counted

theorem total_fill (value : Int64) : total (actions ++ [fill value]) = value.toInt := by
  have since : sinceFilled (actions ++ [fill value]) = [] :=
    List.rtakeWhile_concat_neg _ _ _ (by simp [filled?])
  simp [total, since, lastFilled, filled?]

end Total

end CellAction

namespace Cell

variable {width : Nat} {c d : Cell}

/-! ## Amounts modulo the number of values -/

theorem Fits.ext (fits : c.Fits width) (fits' : d.Fits width) (same : c.value.toNat = d.value.toNat) :
    c = d := by
  obtain ⟨rfl, -⟩ := fits
  have wide := fits'.width_eq
  have value := UInt32.toNat_inj.1 same
  cases c
  cases d
  simp_all

/-- The operation keeps the width of a cell and adds the amount to its value, modulo the number of values
of that width. -/
structure Rotates (width : Nat) (amount : Int) (change : Cell → Cell) : Prop where
  fits : ∀ {c : Cell}, c.Fits width → (change c).Fits width
  value : ∀ {c : Cell}, c.Fits width →
    ((change c).value.toNat : Int) = (c.value.toNat + amount) % 2 ^ width

namespace Rotates

variable {amount amount' : Int} {change change' : Cell → Cell}

theorem increment (narrow : width ≤ 32) : Rotates width 1 Cell.increment where
  fits := fun fits => fits.increment narrow
  value := by
    rintro c ⟨rfl, inside⟩
    exact c.increment_toInt narrow inside

theorem decrement (narrow : width ≤ 32) : Rotates width (-1) Cell.decrement where
  fits := fun fits => fits.decrement narrow
  value := by
    rintro c ⟨rfl, inside⟩
    exact c.decrement_toInt narrow inside

theorem unmoved : Rotates width 0 id where
  fits := fun fits => fits
  value := by
    intro c fits
    rw [id, Int.add_zero, Int.emod_eq_of_lt (Int.natCast_nonneg _) (by exact_mod_cast fits.value_lt)]

theorem andThen (first : Rotates width amount change) (second : Rotates width amount' change') :
    Rotates width (amount + amount') (change' ∘ change) where
  fits := fun fits => second.fits (first.fits fits)
  value := by
    intro c fits
    rw [Function.comp_apply, second.value (first.fits fits), first.value fits, Int.emod_add_emod,
      Int.add_assoc]

theorem iterate (rotates : Rotates width amount change) (times : Nat) :
    Rotates width (times * amount) change^[times] := by
  induction times with
  | zero => simpa using unmoved
  | succ times ih =>
    have further := ih.andThen rotates
    rw [← Function.iterate_succ'] at further
    rwa [Nat.cast_succ, Int.add_mul, Int.one_mul]

/-- A whole number of turns changes nothing. -/
theorem restores (rotates : Rotates width amount change) (turns : (2 ^ width : Int) ∣ amount)
    (fits : c.Fits width) : change c = c := by
  have value := rotates.value fits
  obtain ⟨count, rfl⟩ := turns
  rw [Int.add_mul_emod_self_left, Int.emod_eq_of_lt (Int.natCast_nonneg _)
    (by exact_mod_cast fits.value_lt)] at value
  exact (rotates.fits fits).ext fits (Int.ofNat_inj.1 value)

end Rotates

/-! ## Sequences of actions -/

def act (c : Cell) : CellAction → Cell
  | .increment => c.increment
  | .decrement => c.decrement
  | .fill value => c.fill value

/-- The action with a guard before whatever can overflow or be cut off. -/
def act? (c : Cell) : CellAction → Option Cell
  | .increment => c.increment?
  | .decrement => c.decrement?
  | .fill value => c.fill? value

theorem Fits.act (fits : c.Fits width) (narrow : width ≤ 32) (action : CellAction) :
    (c.act action).Fits width := by
  cases action with
  | increment => exact fits.increment narrow
  | decrement => exact fits.decrement narrow
  | fill value => exact fits.fill narrow value

theorem act?_eq (fits : c.Fits width) (narrow : width ≤ 32) (action : CellAction) :
    c.act? action = some (c.act action) := by
  cases action with
  | increment => exact increment?_eq fits narrow
  | decrement => exact decrement?_eq fits narrow
  | fill value => exact fill?_eq fits narrow value

theorem actions?_eq (fits : c.Fits width) (narrow : width ≤ 32) (actions : List CellAction) :
    actions.foldlM act? c = some (actions.foldl act c) := by
  induction actions generalizing c with
  | nil => rfl
  | cons action rest ih =>
    rw [List.foldlM_cons, act?_eq fits narrow, List.foldl_cons]
    exact ih (fits.act narrow action)

/-- Fills forget what was before, so the sequence is taken from its end. -/
theorem actions_toInt (narrow : width ≤ 32) (actions : List CellAction) :
    let c := actions.foldl act (.blank width)
    c.Fits width ∧ (c.value.toNat : Int) = CellAction.total actions % 2 ^ width := by
  induction actions using List.reverseRecOn with
  | nil => exact ⟨.blank width, (Int.zero_emod _).symm⟩
  | append_singleton actions action ih =>
    obtain ⟨fits, value⟩ := ih
    rw [List.foldl_append, List.foldl_cons, List.foldl_nil]
    refine ⟨fits.act narrow action, ?_⟩
    cases action with
    | increment =>
      rw [CellAction.total_increment, act, (Rotates.increment narrow).value fits, value,
        Int.emod_add_emod]
    | decrement =>
      rw [CellAction.total_decrement, act, (Rotates.decrement narrow).value fits, value,
        Int.emod_add_emod, Int.sub_eq_add_neg]
    | fill filled =>
      have width_eq := fits.width_eq
      rw [CellAction.total_fill, act, fill_toNat _ filled (by omega), width_eq]

end Cell

/-- Whatever is done with a new cell of up to thirty-two bits, no word overflows on the way, and the cell
holds the number filled in last with the increments since and without the decrements since, modulo the
number of values of its width. An increment and a decrement undo each other, and as many increments as
there are values, or as many decrements, come back to where they began. -/
theorem cell_counts_modulo {width : Nat} (narrow : width ≤ 32) (actions : List CellAction) :
    let c := actions.foldl Cell.act (.blank width)
    actions.foldlM Cell.act? (.blank width) = some c ∧ c.width = width ∧ c.value.toNat < 2 ^ width ∧
      (c.value.toNat : Int) =
        (CellAction.lastFilled actions + (CellAction.sinceFilled actions).count .increment -
          (CellAction.sinceFilled actions).count .decrement) % 2 ^ width ∧
      c.increment.decrement = c ∧ c.decrement.increment = c ∧
      Cell.increment^[2 ^ width] c = c ∧ Cell.decrement^[2 ^ width] c = c := by
  intro c
  obtain ⟨fits, value⟩ := Cell.actions_toInt narrow actions
  have up := Cell.Rotates.increment narrow
  have down := Cell.Rotates.decrement narrow
  have turn : ((2 ^ width : Nat) : Int) = 2 ^ width := Int.natCast_pow 2 width
  refine ⟨Cell.actions?_eq (.blank width) narrow actions, fits.width_eq, fits.value_lt, value,
    (up.andThen down).restores ?_ fits, (down.andThen up).restores ?_ fits,
    (up.iterate _).restores ?_ fits, (down.iterate _).restores ?_ fits⟩
  · exact Int.dvd_zero _
  · exact Int.dvd_zero _
  · exact ⟨1, by rw [turn]⟩
  · exact ⟨-1, by rw [turn]⟩

/-- The widest cell, at the edges of the words: the least number that can be filled in is a whole multiple
of its number of values. -/
theorem widest_cell_counts_modulo :
    let actions : List CellAction :=
      [.increment, .fill (-9223372036854775808), .decrement, .increment, .decrement, .decrement]
    let c := actions.foldl Cell.act (.blank 32)
    32 ≤ 32 ∧ CellAction.lastFilled actions = -9223372036854775808 ∧
      CellAction.sinceFilled actions = [.decrement, .increment, .decrement, .decrement] ∧
      actions.foldlM Cell.act? (.blank 32) = some c ∧ c.value = 4294967294 ∧
      c.increment.decrement = c ∧ Cell.increment^[2 ^ 32] c = c := by
  intro actions c
  have narrow : 32 ≤ 32 := Nat.le_refl _
  obtain ⟨guarded, -, -, -, back, -, around, -⟩ := cell_counts_modulo narrow actions
  exact ⟨narrow, by decide, by decide, guarded, by decide, back, around⟩

end TapeMachine

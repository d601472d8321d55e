import Mathlib.Logic.Function.Basic
import TapeMachine.Proofs.WordBounds

/-! A tape without ends, with a number in every cell on both sides of the place where it began. A tape
that grows shows the same numbers at the same places, whatever is done with either, and the endless tape
is still blank wherever the other one has no cell. -/
namespace TapeMachine

/-- What can be done with a tape. -/
inductive TapeAction where
  | right
  | left
  | increment
  | decrement
  | fill (value : Int64)
  deriving DecidableEq, Repr

def Tape.act (t : Tape) : TapeAction → Tape
  | .right => t.moveRight
  | .left => t.moveLeft
  | .increment => t.modify .increment
  | .decrement => t.modify .decrement
  | .fill value => t.modify (·.fill value)

structure EndlessTape where
  values : Int → Int
  head : Int

namespace EndlessTape

def blank : EndlessTape :=
  ⟨fun _ => 0, 0⟩

/-- The cell at the head takes the value, modulo the number of values of the width. -/
def put (e : EndlessTape) (width : Nat) (value : Int) : EndlessTape :=
  { e with values := Function.update e.values e.head (value % 2 ^ width) }

def act (width : Nat) (e : EndlessTape) : TapeAction → EndlessTape
  | .right => { e with head := e.head + 1 }
  | .left => { e with head := e.head - 1 }
  | .increment => e.put width (e.values e.head + 1)
  | .decrement => e.put width (e.values e.head - 1)
  | .fill value => e.put width value.toInt

theorem put_here (e : EndlessTape) (width : Nat) (value : Int) :
    (e.put width value).values e.head = value % 2 ^ width :=
  Function.update_self ..

theorem put_elsewhere {e : EndlessTape} {place : Int} (other : place ≠ e.head) (width : Nat)
    (value : Int) : (e.put width value).values place = e.values place :=
  Function.update_of_ne other ..

end EndlessTape

namespace Tape

/-- Index for index, the cells of the tape are those of the endless tape; elsewhere that is blank. Moves
to the left renumber the cells, so an index is told its place by its distance from the pointer. -/
structure Shows (t : Tape) (e : EndlessTape) : Prop where
  inside : t.pointer < t.size
  current : (t.current.value.toNat : Int) = e.values e.head
  stored : ∀ index (bound : index < t.cells.size),
    (t.cells[index].value.toNat : Int) = e.values (e.head + (index - t.pointer))
  blank : ∀ place, t.pointer + (place - e.head) < 0 ∨ t.size ≤ t.pointer + (place - e.head) →
    e.values place = 0

/-- What is kept while both tapes are used: a tape that fits, seen from its pointer as the endless one is
seen from its head. -/
structure Represents (settings : Settings) (t : Tape) (e : EndlessTape) : Prop where
  fits : t.Fits settings
  view : ∀ distance, ((t.view distance).value.toNat : Int) = e.values (e.head + distance)

namespace Represents

variable {settings : Settings} {t : Tape} {e : EndlessTape}

theorem start (valid : settings.Valid) :
    Represents settings (blank settings.initialCells settings.growthChunk settings.cellBits) .blank :=
  ⟨.blank valid, fun distance => by rw [view_blank]; rfl⟩

theorem current (shown : Represents settings t e) :
    (t.current.value.toNat : Int) = e.values e.head := by
  rw [← view_zero, shown.view, Int.add_zero]

theorem moveRight (shown : Represents settings t e) :
    Represents settings t.moveRight { e with head := e.head + 1 } := by
  refine ⟨shown.fits.moveRight, fun distance => ?_⟩
  rw [view_moveRight, shown.view, Int.add_comm distance 1, Int.add_assoc]

theorem moveLeft (shown : Represents settings t e) :
    Represents settings t.moveLeft { e with head := e.head - 1 } := by
  refine ⟨shown.fits.moveLeft, fun distance => ?_⟩
  have place : e.head + (distance - 1) = e.head - 1 + distance := by omega
  rw [view_moveLeft shown.fits.sound, shown.view, place]

theorem modify {change : Cell → Cell} {value : Int} (shown : Represents settings t e)
    (keeps : ∀ c : Cell, c.Fits settings.cellBits → (change c).Fits settings.cellBits)
    (changed : ((change t.current).value.toNat : Int) = value % 2 ^ settings.cellBits) :
    Represents settings (t.modify change) (e.put settings.cellBits value) := by
  refine ⟨shown.fits.modify keeps, fun distance => ?_⟩
  change _ = (e.put settings.cellBits value).values (e.head + distance)
  rw [view_modify shown.fits.sound]
  by_cases here : distance = 0
  · rw [if_pos here, changed, here, Int.add_zero, e.put_here]
  · rw [if_neg here, shown.view, EndlessTape.put_elsewhere (by omega)]

theorem act (valid : settings.Valid) (shown : Represents settings t e) (action : TapeAction) :
    Represents settings (t.act action) (e.act settings.cellBits action) := by
  have narrow := valid.width_le
  obtain ⟨width, inside⟩ := shown.fits.current
  rw [← width] at inside
  cases action with
  | right => exact shown.moveRight
  | left => exact shown.moveLeft
  | increment =>
    refine shown.modify (fun c fits => fits.increment narrow) ?_
    rw [t.current.increment_toInt (by omega) inside, width, shown.current]
  | decrement =>
    refine shown.modify (fun c fits => fits.decrement narrow) ?_
    rw [t.current.decrement_toInt (by omega) inside, width, shown.current]
  | fill value =>
    refine shown.modify (fun c fits => fits.fill narrow value) ?_
    rw [t.current.fill_toNat value (by omega), width]

theorem actions (valid : settings.Valid) (shown : Represents settings t e)
    (actions : List TapeAction) :
    Represents settings (actions.foldl Tape.act t)
      (actions.foldl (EndlessTape.act settings.cellBits) e) := by
  induction actions generalizing t e with
  | nil => exact shown
  | cons action rest ih => exact ih (shown.act valid action)

theorem shows (shown : Represents settings t e) : t.Shows e := by
  refine ⟨shown.fits.sound.inside, shown.current, fun index bound => ?_, fun place outside => ?_⟩
  · have reached : t.pointer + ((index : Int) - t.pointer) = index := by omega
    rw [← shown.view, view_of_index reached, Array.getD_eq_getD_getElem?,
      Array.getElem?_eq_getElem bound, Option.getD_some]
  · have there : e.head + (place - e.head) = place := by omega
    rw [← there, ← shown.view]
    rcases outside with before | behind
    · rw [view_before before]
      rfl
    · rw [view_behind behind]
      rfl

end Represents

/-- The second tape has the cells of the first, perhaps with blank ones added at its ends, and its pointer
is so many cells to the right. -/
structure MovedBy (distance : Int) (t t' : Tape) : Prop where
  width : t'.width = t.width
  cells : ∃ before behind,
    t'.cells = Array.replicate before (.blank t.width) ++ t.cells ++
      Array.replicate behind (.blank t.width) ∧
    (t'.pointer : Int) = before + t.pointer + distance

namespace MovedBy

variable {t t' t'' : Tape} {distance further : Int}

theorem trans (first : MovedBy distance t t') (second : MovedBy further t' t'') :
    MovedBy (distance + further) t t'' := by
  obtain ⟨width, before, behind, cells, pointer⟩ := first
  obtain ⟨width', before', behind', cells', pointer'⟩ := second
  refine ⟨width'.trans width, before' + before, behind + behind', ?_, by omega⟩
  rw [cells', cells, width, ← Array.replicate_append_replicate, ← Array.replicate_append_replicate]
  simp only [Array.append_assoc]

theorem right (t : Tape) : MovedBy 1 t t.moveRight := by
  unfold moveRight
  split
  · exact ⟨rfl, 0, t.chunk, by simp [blankChunk], by simp⟩
  · exact ⟨rfl, 0, 0, by simp, by simp⟩

theorem left (grows : 0 < t.chunk) : MovedBy (-1) t t.moveLeft := by
  unfold moveLeft
  split
  · refine ⟨rfl, t.chunk, 0, by simp [blankChunk], ?_⟩
    simp only
    omega
  · refine ⟨rfl, 0, 0, by simp, ?_⟩
    simp only
    omega

end MovedBy

end Tape

/-- Whatever is done with a growing tape, its pointer stays inside, its cells keep their width, and it
shows the endless tape with which the same was done. A move keeps all cells and goes to the next one, so
one move and its opposite lead back. -/
theorem tape_shows_endless_tape {settings : Settings} (valid : settings.Valid)
    (actions : List TapeAction) :
    let t := actions.foldl Tape.act
      (.blank settings.initialCells settings.growthChunk settings.cellBits)
    let e := actions.foldl (EndlessTape.act settings.cellBits) .blank
    t.Fits settings ∧ t.Shows e ∧ Tape.MovedBy 1 t t.moveRight ∧ Tape.MovedBy (-1) t t.moveLeft ∧
      Tape.MovedBy 0 t t.moveRight.moveLeft ∧ t.moveRight.moveLeft.current = t.current ∧
      Tape.MovedBy 0 t t.moveLeft.moveRight ∧ t.moveLeft.moveRight.current = t.current := by
  intro t e
  have shown : Tape.Represents settings t e := (Tape.Represents.start valid).actions valid actions
  have sound := shown.fits.sound
  have right := Tape.MovedBy.right t
  have left := Tape.MovedBy.left sound.grows
  refine ⟨shown.fits, shown.shows, right, left, right.trans (.left sound.moveRight.grows), ?_,
    left.trans (.right _), ?_⟩
  · rw [← Tape.view_zero, ← Tape.view_zero, Tape.view_moveLeft sound.moveRight, Tape.view_moveRight,
      Int.sub_add_cancel]
  · rw [← Tape.view_zero, ← Tape.view_zero, Tape.view_moveRight, Tape.view_moveLeft sound,
      Int.add_sub_cancel]

/-- One cell of three bits that grows by one cell at both ends. Two of the values do not fit. -/
theorem one_cell_shows_endless_tape :
    let settings : Settings := { initialCells := 1, growthChunk := 1, cellBits := 3 }
    let actions : List TapeAction :=
      [.decrement, .left, .fill 9, .left, .right, .right, .right, .fill (-3), .left]
    let t := actions.foldl Tape.act (.blank 1 1 3)
    let e := actions.foldl (EndlessTape.act 3) .blank
    settings.Valid ∧ t.cells.toList.map (·.value.toNat) = [0, 1, 7, 5] ∧ t.pointer = 2 ∧ e.head = 0 ∧
      t.Shows e ∧ e.values 0 = 7 ∧ e.values 2 = 0 ∧ t.moveRight.moveLeft.current = t.current := by
  intro settings actions t e
  have valid : settings.Valid := by constructor <;> decide
  obtain ⟨-, shows, -, -, -, back, -⟩ := tape_shows_endless_tape valid actions
  have current : (t.current.value.toNat : Int) = 7 := by decide
  exact ⟨valid, by decide, by decide, by decide, shows, shows.current.symm.trans current,
    shows.blank 2 (by decide), back⟩

end TapeMachine

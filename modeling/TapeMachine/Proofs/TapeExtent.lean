import Mathlib.Data.List.Infix
import Mathlib.Data.Rat.Floor
import TapeMachine.Proofs.EndlessTape
import TapeMachine.Proofs.GuardedMemory

/-! The exact size of a tape and the exact index of its pointer. Both follow from where the pointer has
been: the tape has grown at each end by as many chunks as the farthest place there needs, and the order in
which the places were visited does not matter. So the farthest places also tell whether there is memory for
the tape. -/
namespace TapeMachine

/-- By how many cells the pointer goes to the right. -/
def TapeAction.shift : TapeAction → Int
  | .right => 1
  | .left => -1
  | .increment | .decrement | .fill _ => 0

/-- The moves to the right less those to the left. -/
def displacement (actions : List TapeAction) : Int :=
  (actions.map TapeAction.shift).sum

/-- Where the pointer has been, seen from where it began: a place for every beginning of the actions, the
empty one included. -/
def places (actions : List TapeAction) : List Int :=
  actions.inits.map displacement

def rightmost (actions : List TapeAction) : Int :=
  (places actions).foldl max 0

def leftmost (actions : List TapeAction) : Int :=
  (places actions).foldl min 0

section Places

variable {actions : List TapeAction} {action : TapeAction}

theorem displacement_append (xs ys : List TapeAction) :
    displacement (xs ++ ys) = displacement xs + displacement ys := by
  rw [displacement, List.map_append, List.sum_append]
  rfl

theorem displacement_snoc (actions : List TapeAction) (action : TapeAction) :
    displacement (actions ++ [action]) = displacement actions + action.shift := by
  rw [displacement_append]
  simp [displacement]

theorem places_snoc (actions : List TapeAction) (action : TapeAction) :
    places (actions ++ [action]) = places actions ++ [displacement actions + action.shift] := by
  rw [← displacement_snoc]
  simp [places, List.inits_append]

theorem rightmost_snoc (actions : List TapeAction) (action : TapeAction) :
    rightmost (actions ++ [action]) =
      max (rightmost actions) (displacement actions + action.shift) := by
  rw [rightmost, places_snoc, List.foldl_append]
  rfl

theorem leftmost_snoc (actions : List TapeAction) (action : TapeAction) :
    leftmost (actions ++ [action]) =
      min (leftmost actions) (displacement actions + action.shift) := by
  rw [leftmost, places_snoc, List.foldl_append]
  rfl

end Places

/-- The least number of chunks that have so many cells. -/
def chunksFor (chunk : Nat) (cells : Int) : Int :=
  ⌈(cells : ℚ) / chunk⌉

theorem chunksFor_eq_iff {chunk : Nat} (grows : 0 < chunk) {cells count : Int} :
    chunksFor chunk cells = count ↔ cells ≤ chunk * count ∧ chunk * count < cells + chunk := by
  have positive : (0 : ℚ) < chunk := by exact_mod_cast grows
  rw [chunksFor, Int.ceil_eq_iff, lt_div_iff₀ positive, div_le_iff₀ positive, and_comm]
  have upper : (cells : ℚ) ≤ count * chunk ↔ cells ≤ chunk * count := by
    rw [mul_comm]
    exact_mod_cast Iff.rfl
  have lower : ((count : ℚ) - 1) * chunk < cells ↔ chunk * count < cells + chunk := by
    rw [sub_mul, one_mul, sub_lt_iff_lt_add, mul_comm]
    exact_mod_cast Iff.rfl
  rw [upper, lower]

/-- Chunks that have the cells, and would not if they were one less. -/
theorem chunksFor_bounds {chunk : Nat} (grows : 0 < chunk) (cells : Int) :
    cells ≤ chunk * chunksFor chunk cells ∧ chunk * chunksFor chunk cells < cells + chunk :=
  (chunksFor_eq_iff grows).1 rfl

namespace Tape

section Moves

variable (t : Tape)

theorem moveRight_pointer : t.moveRight.pointer = t.pointer + 1 := by
  unfold moveRight
  split <;> rfl

theorem moveLeft_pointer :
    t.moveLeft.pointer = if t.pointer = 0 then t.chunk - 1 else t.pointer - 1 := by
  unfold moveLeft
  split <;> rfl

theorem moveRight_chunk : t.moveRight.chunk = t.chunk := by
  unfold moveRight
  split <;> rfl

theorem moveLeft_chunk : t.moveLeft.chunk = t.chunk := by
  unfold moveLeft
  split <;> rfl

end Moves

/-- The second tape has come out of the first one by moves that lead to the distance and have not been
farther to the left or to the right than the two others. It has grown by what it lacked for them. -/
structure Spans (t : Tape) (left right distance : Int) (u : Tape) : Prop where
  within : left ≤ distance ∧ distance ≤ right
  chunk : u.chunk = t.chunk
  pointer : (u.pointer : Int) =
    t.pointer + distance + t.chunk * chunksFor t.chunk (max 0 (-(t.pointer + left)))
  size : (u.size : Int) = t.size + t.chunk * (chunksFor t.chunk (max 0 (-(t.pointer + left))) +
    chunksFor t.chunk (max 0 (t.pointer + right - t.size + 1)))

namespace Spans

variable {t u : Tape} {left right distance : Int}

theorem refl (sound : t.Sound) : Spans t 0 0 0 t := by
  obtain ⟨inside, grows⟩ := sound
  have before : chunksFor t.chunk (max 0 (-(t.pointer + 0))) = 0 := by
    rw [chunksFor_eq_iff grows]
    omega
  have behind : chunksFor t.chunk (max 0 (t.pointer + 0 - t.size + 1)) = 0 := by
    rw [chunksFor_eq_iff grows]
    omega
  exact ⟨by omega, rfl, by rw [before]; omega, by rw [before, behind]; omega⟩

theorem modify (spans : Spans t left right distance u) (change : Cell → Cell) :
    Spans t left right distance (u.modify change) :=
  ⟨spans.within, spans.chunk, spans.pointer, by rw [modify_size]; exact spans.size⟩

/-- Only at the last cell does a move to the right need another chunk. -/
theorem moveRight (grows : 0 < t.chunk) (spans : Spans t left right distance u) :
    Spans t left (max right (distance + 1)) (distance + 1) u.moveRight := by
  obtain ⟨⟨low, high⟩, chunk, pointer, size⟩ := spans
  obtain ⟨enough, least⟩ := chunksFor_bounds grows (max 0 (t.pointer + right - t.size + 1))
  have needed : chunksFor t.chunk (max 0 (t.pointer + max right (distance + 1) - t.size + 1)) =
      chunksFor t.chunk (max 0 (t.pointer + right - t.size + 1)) +
        if u.size ≤ u.pointer + 1 then 1 else 0 := by
    rw [Int.mul_add] at size
    rw [chunksFor_eq_iff grows, Int.mul_add]
    split <;> omega
  refine ⟨by omega, by rw [moveRight_chunk, chunk], ?_, ?_⟩
  · rw [moveRight_pointer]
    omega
  · rw [moveRight_size, needed, chunk]
    split <;> simp only [Int.mul_add] at size ⊢ <;> omega

/-- Only at the first cell does a move to the left need another chunk, and it renumbers the cells. -/
theorem moveLeft (grows : 0 < t.chunk) (spans : Spans t left right distance u) :
    Spans t (min left (distance - 1)) right (distance - 1) u.moveLeft := by
  obtain ⟨⟨low, high⟩, chunk, pointer, size⟩ := spans
  obtain ⟨enough, least⟩ := chunksFor_bounds grows (max 0 (-(t.pointer + left)))
  have needed : chunksFor t.chunk (max 0 (-(t.pointer + min left (distance - 1)))) =
      chunksFor t.chunk (max 0 (-(t.pointer + left))) + if u.pointer = 0 then 1 else 0 := by
    rw [chunksFor_eq_iff grows, Int.mul_add]
    split <;> omega
  refine ⟨by omega, by rw [moveLeft_chunk, chunk], ?_, ?_⟩
  · rw [moveLeft_pointer, needed, chunk]
    split <;> simp only [Int.mul_add] <;> omega
  · rw [moveLeft_size, needed, chunk]
    split <;> simp only [Int.mul_add] at size ⊢ <;> omega

theorem act (grows : 0 < t.chunk) (spans : Spans t left right distance u) (action : TapeAction) :
    Spans t (min left (distance + action.shift)) (max right (distance + action.shift))
      (distance + action.shift) (u.act action) := by
  have within := spans.within
  cases action with
  | right =>
    have same : min left (distance + 1) = left := by omega
    rw [TapeAction.shift, same]
    exact spans.moveRight grows
  | left =>
    have same : max right (distance + -1) = right := by omega
    rw [TapeAction.shift, same]
    exact spans.moveLeft grows
  | increment | decrement | fill value =>
    have same : min left distance = left := by omega
    have same' : max right distance = right := by omega
    rw [TapeAction.shift, Int.add_zero, same, same']
    exact spans.modify _

theorem actions (sound : t.Sound) (actions : List TapeAction) :
    Spans t (leftmost actions) (rightmost actions) (displacement actions)
      (actions.foldl Tape.act t) := by
  induction actions using List.reverseRecOn with
  | nil => exact refl sound
  | append_singleton actions action ih =>
    rw [leftmost_snoc, rightmost_snoc, displacement_snoc, List.foldl_append]
    exact ih.act sound.grows action

end Spans

theorem size_le_actions {t : Tape} (sound : t.Sound) (actions : List TapeAction) :
    t.size ≤ (actions.foldl act t).size := by
  have size := (Spans.actions sound actions).size
  have before := chunksFor_bounds sound.grows (max 0 (-(t.pointer + leftmost actions)))
  have behind := chunksFor_bounds sound.grows (max 0 (t.pointer + rightmost actions - t.size + 1))
  rw [Int.mul_add] at size
  omega

end Tape

theorem leftmost_le_zero (actions : List TapeAction) : leftmost actions ≤ 0 := by
  induction actions using List.reverseRecOn with
  | nil => exact Int.le_refl 0
  | append_singleton actions action ih =>
    rw [leftmost_snoc]
    omega

theorem leftmost_le_displacement (actions : List TapeAction) :
    leftmost actions ≤ displacement actions := by
  induction actions using List.reverseRecOn with
  | nil => exact Int.le_refl 0
  | append_singleton actions action _ =>
    rw [leftmost_snoc, displacement_snoc]
    omega

theorem leftmost_append (xs ys : List TapeAction) :
    leftmost (xs ++ ys) = min (leftmost xs) (displacement xs + leftmost ys) := by
  induction ys using List.reverseRecOn with
  | nil =>
    have low := leftmost_le_displacement xs
    have none : leftmost [] = 0 := rfl
    rw [List.append_nil, none]
    omega
  | append_singleton ys action ih =>
    rw [← List.append_assoc, leftmost_snoc, ih, leftmost_snoc, displacement_append]
    omega

theorem displacement_le_rightmost (actions : List TapeAction) :
    displacement actions ≤ rightmost actions := by
  induction actions using List.reverseRecOn with
  | nil => exact Int.le_refl 0
  | append_singleton actions action _ =>
    rw [rightmost_snoc, displacement_snoc]
    omega

theorem rightmost_append (xs ys : List TapeAction) :
    rightmost (xs ++ ys) = max (rightmost xs) (displacement xs + rightmost ys) := by
  induction ys using List.reverseRecOn with
  | nil =>
    have high := displacement_le_rightmost xs
    have none : rightmost [] = 0 := rfl
    rw [List.append_nil, none]
    omega
  | append_singleton ys action ih =>
    rw [← List.append_assoc, rightmost_snoc, ih, rightmost_snoc, displacement_append]
    omega

section New

variable {size chunk : Nat}

theorem chunksFor_zero (chunk : Nat) : chunksFor chunk 0 = 0 := by
  simp [chunksFor]

theorem Tape.Spans.shape_of_new {width : Nat} {left right distance : Int} {t : Tape}
    (spans : (Tape.blank size chunk width).Spans left right distance t) (reached : left ≤ 0) :
    let before := chunksFor chunk (-left)
    let behind := chunksFor chunk (max 0 (right - size + 1))
    t.chunk = chunk ∧ (t.size : Int) = size + chunk * (before + behind) ∧
      (t.pointer : Int) = distance + chunk * before := by
  intro before behind
  obtain ⟨-, kept, pointer, grown⟩ := spans
  have fresh : (Tape.blank size chunk width).size = size := Array.size_replicate
  have start : ((Tape.blank size chunk width).pointer : Int) = 0 := rfl
  have lacking : max 0 (-(0 + left)) = -left := by omega
  rw [start, lacking, Int.zero_add] at pointer
  rw [start, lacking, Int.zero_add, fresh] at grown
  exact ⟨kept, grown, pointer⟩

theorem shape_of_new_tape (cells : 0 < size) (grows : 0 < chunk) (width : Nat)
    (actions : List TapeAction) :
    let t := actions.foldl Tape.act (.blank size chunk width)
    let before := chunksFor chunk (-leftmost actions)
    let behind := chunksFor chunk (max 0 (rightmost actions - size + 1))
    t.chunk = chunk ∧ (t.size : Int) = size + chunk * (before + behind) ∧
      (t.pointer : Int) = displacement actions + chunk * before :=
  (Tape.Spans.actions (.blank cells grows width) actions).shape_of_new (leftmost_le_zero actions)

/-- The length of a new tape whose pointer has been so far to the right and never to the left of where it
began. -/
def lengthTo (settings : Settings) (last : Int) : Int :=
  settings.initialCells + settings.growthChunk *
    chunksFor settings.growthChunk (max 0 (last - settings.initialCells + 1))

variable {settings : Settings} {last : Int}

theorem lt_lengthTo (valid : settings.Valid) : last < lengthTo settings last := by
  have enough := (chunksFor_bounds valid.chunk_pos (max 0 (last - settings.initialCells + 1))).1
  rw [lengthTo]
  omega

theorem Tape.Spans.size_eq_lengthTo {distance : Int} {t : Tape}
    (spans : (Tape.blank settings.initialCells settings.growthChunk settings.cellBits).Spans
      0 last distance t) : (t.size : Int) = lengthTo settings last := by
  have size := (spans.shape_of_new (Int.le_refl 0)).2.1
  rwa [Int.neg_zero, chunksFor_zero, Int.zero_add] at size

end New

/-! ## A tape that is kept in memory -/

section Guarded

variable {indexBits : Nat} {settings : Settings} {t : Tape}

/-- The action with the guards of the tape. -/
def Tape.act? (indexBits : Nat) (t : Tape) : TapeAction → Option Tape
  | .right => t.moveRight? indexBits
  | .left => t.moveLeft? indexBits
  | .increment => t.modify? Cell.increment?
  | .decrement => t.modify? Cell.decrement?
  | .fill value => t.modify? (·.fill? value)

/-- A new tape with which this has been done, if no guard has stopped it. -/
def worked? (indexBits : Nat) (settings : Settings) (actions : List TapeAction) : Option Tape := do
  let t ← Tape.blank? indexBits settings.initialCells settings.growthChunk settings.cellBits
  actions.foldlM (Tape.act? indexBits) t

theorem Tape.act_fits (valid : settings.Valid) (fits : t.Fits settings) (action : TapeAction) :
    (t.act action).Fits settings := by
  have narrow := valid.width_le
  cases action with
  | right => exact fits.moveRight
  | left => exact fits.moveLeft
  | increment => exact fits.modify fun _ inside => inside.increment narrow
  | decrement => exact fits.modify fun _ inside => inside.decrement narrow
  | fill value => exact fits.modify fun _ inside => inside.fill narrow value

theorem Tape.actions_fits (valid : settings.Valid) (fits : t.Fits settings)
    (actions : List TapeAction) : (actions.foldl Tape.act t).Fits settings := by
  induction actions generalizing t with
  | nil => exact fits
  | cons action rest ih => exact ih (act_fits valid fits action)

theorem Tape.act?_eq (valid : settings.Valid) (fits : t.Fits settings)
    (held : InMemory indexBits t.size) (action : TapeAction) :
    t.act? indexBits action =
      if InMemory indexBits (t.act action).size then some (t.act action) else none := by
  have narrow := valid.width_le
  have inside := fits.sound.inside
  have modified : ∀ change : Cell → Cell, InMemory indexBits (t.modify change).size := by
    intro change
    rw [Tape.modify_size]
    exact held
  cases action with
  | right => exact Tape.moveRight?_eq valid fits held
  | left => exact Tape.moveLeft?_eq valid fits held
  | increment =>
    rw [act, if_pos (modified _)]
    exact Tape.modify?_eq inside (Cell.increment?_eq fits.current narrow)
  | decrement =>
    rw [act, if_pos (modified _)]
    exact Tape.modify?_eq inside (Cell.decrement?_eq fits.current narrow)
  | fill value =>
    rw [act, if_pos (modified _)]
    exact Tape.modify?_eq inside (Cell.fill?_eq fits.current narrow value)

/-- Since a tape never shrinks, its size at the end decides. -/
theorem Tape.actions?_eq (valid : settings.Valid) (fits : t.Fits settings)
    (held : InMemory indexBits t.size) (actions : List TapeAction) :
    actions.foldlM (Tape.act? indexBits) t =
      if InMemory indexBits (actions.foldl Tape.act t).size then some (actions.foldl Tape.act t) else none := by
  induction actions generalizing t with
  | nil => exact (if_pos held).symm
  | cons action rest ih =>
    have next := act_fits valid fits action
    rw [List.foldlM_cons, List.foldl_cons, act?_eq valid fits held]
    by_cases room : InMemory indexBits (t.act action).size
    · rw [if_pos room]
      exact ih next room
    · have shrunk := mt (InMemory.mono · (Tape.size_le_actions next.sound rest)) room
      rw [if_neg room, if_neg shrunk]
      rfl

theorem worked?_eq_some_iff (valid : settings.Valid) {actions : List TapeAction} :
    worked? indexBits settings actions = some t ↔ InMemory indexBits t.size ∧
      actions.foldl Tape.act (.blank settings.initialCells settings.growthChunk settings.cellBits) = t := by
  have fits : (Tape.blank settings.initialCells settings.growthChunk settings.cellBits).Fits settings :=
    .blank valid
  have fresh : (Tape.blank settings.initialCells settings.growthChunk settings.cellBits).size =
      settings.initialCells := Array.size_replicate
  have grown := Tape.size_le_actions fits.sound actions
  rw [fresh] at grown
  rw [worked?, Tape.blank?_eq valid]
  by_cases held : InMemory indexBits settings.initialCells
  · rw [if_pos held]
    simp only [Option.bind_eq_bind, Option.bind_some]
    rw [Tape.actions?_eq valid fits (fresh.symm ▸ held), Option.ite_none_right_eq_some, Option.some.injEq]
    exact and_congr_left fun same => by rw [same]
  · rw [if_neg held]
    simp only [Option.bind_eq_bind, Option.bind_none, reduceCtorEq, false_iff]
    rintro ⟨room, rfl⟩
    exact held (room.mono grown)

/-- A new tape has enough memory for what is done with it exactly if the cells that it starts with and the
chunks that the farthest place at each end needs are in memory. Then it has these cells and no more, and its
pointer is as far from where it began as the moves say. So it grows by one chunk, and only where a move would
leave it, never shrinks, and is as large after any other actions with the same farthest places. -/
theorem extremes_determine_shape (valid : settings.Valid) (indexBits : Nat)
    (actions : List TapeAction) :
    let chunk := settings.growthChunk
    let before := chunksFor chunk (-leftmost actions)
    let behind := chunksFor chunk (max 0 (rightmost actions - settings.initialCells + 1))
    let length : Int := settings.initialCells + chunk * (before + behind)
    ((∃ t, worked? indexBits settings actions = some t) ↔ 8 * length < 2 ^ (indexBits - 1)) ∧
    ∀ t, worked? indexBits settings actions = some t →
      (t.size : Int) = length ∧
      (t.pointer : Int) = displacement actions + chunk * before ∧
      chunk * before < -leftmost actions + chunk ∧
      chunk * behind < max 0 (rightmost actions - settings.initialCells + 1) + chunk ∧
      (∀ u, t.moveRight? indexBits = some u →
        u.size = t.size + (if t.pointer + 1 = t.size then chunk else 0)) ∧
      (∀ u, t.moveLeft? indexBits = some u →
        u.size = t.size + (if t.pointer = 0 then chunk else 0)) ∧
      (∀ (later : List TapeAction) (u : Tape),
        later.foldlM (Tape.act? indexBits) t = some u → t.size ≤ u.size) ∧
      ∀ other : List TapeAction,
        leftmost other = leftmost actions → rightmost other = rightmost actions →
          ∃ t', worked? indexBits settings other = some t' ∧ t'.size = t.size ∧
            (t'.pointer : Int) - displacement other = t.pointer - displacement actions := by
  intro chunk before behind length
  obtain ⟨kept, grown, pointer⟩ :=
    shape_of_new_tape valid.cells_pos valid.chunk_pos settings.cellBits actions
  constructor
  · rw [← inMemory_iff_of_eq grown]
    constructor
    · rintro ⟨t, worked⟩
      obtain ⟨held, rfl⟩ := (worked?_eq_some_iff valid).1 worked
      exact held
    · exact fun held => ⟨_, (worked?_eq_some_iff valid).2 ⟨held, rfl⟩⟩
  intro t worked
  obtain ⟨held, same⟩ := (worked?_eq_some_iff valid).1 worked
  have fits := Tape.actions_fits valid (.blank valid) actions
  rw [same] at kept grown pointer fits
  refine ⟨grown, pointer, (chunksFor_bounds valid.chunk_pos _).2,
    (chunksFor_bounds valid.chunk_pos _).2, fun u moved => ?_, fun u moved => ?_,
    fun later u moved => ?_, fun other left right => ?_⟩
  · rw [Tape.moveRight?_eq valid fits held, Option.ite_none_right_eq_some] at moved
    obtain ⟨-, ⟨⟩⟩ := moved
    have inside := fits.sound.inside
    rw [Tape.moveRight_size, kept]
    split <;> split <;> omega
  · rw [Tape.moveLeft?_eq valid fits held, Option.ite_none_right_eq_some] at moved
    obtain ⟨-, ⟨⟩⟩ := moved
    rw [Tape.moveLeft_size, kept]
    split <;> omega
  · rw [Tape.actions?_eq valid fits held, Option.ite_none_right_eq_some] at moved
    obtain ⟨-, ⟨⟩⟩ := moved
    exact Tape.size_le_actions fits.sound later
  · obtain ⟨-, grown', pointer'⟩ :=
      shape_of_new_tape valid.cells_pos valid.chunk_pos settings.cellBits other
    rw [left, right, ← grown, Int.natCast_inj] at grown'
    rw [left] at pointer'
    refine ⟨_, (worked?_eq_some_iff valid).2 ⟨grown'.symm ▸ held, rfl⟩, grown', ?_⟩
    rw [pointer', pointer]
    omega

/-- Two cells that grow by three. The fourth place to the left needs a second chunk there, and the third one
to the right lies within the first chunk. -/
theorem two_cells_grow_by_three :
    let settings : Settings := { initialCells := 2, growthChunk := 3 }
    let actions := List.replicate 4 TapeAction.left ++ .increment :: List.replicate 7 .right
    settings.Valid ∧ leftmost actions = -4 ∧ rightmost actions = 3 ∧
      chunksFor 3 4 = 2 ∧ chunksFor 3 2 = 1 ∧
      ∃ t, worked? 64 settings actions = some t ∧ (t.size : Int) = 2 + 3 * (2 + 1) ∧
        (t.pointer : Int) = 3 + 3 * 2 := by
  intro settings actions
  have valid : settings.Valid := by constructor <;> decide
  have left : leftmost actions = -4 := by decide
  have right : rightmost actions = 3 := by decide
  have moved : displacement actions = 3 := by decide
  have before : chunksFor 3 4 = 2 := (chunksFor_eq_iff (by decide)).2 (by decide)
  have behind : chunksFor 3 2 = 1 := (chunksFor_eq_iff (by decide)).2 (by decide)
  have reached : max 0 ((3 : Int) - (2 : Nat) + 1) = 2 := by decide
  obtain ⟨enough, shape⟩ := extremes_determine_shape valid 64 actions
  rw [left, right] at enough
  change _ ↔ 8 * ((2 : Int) + 3 * (chunksFor 3 4 + chunksFor 3 2)) < _ at enough
  rw [before, behind] at enough
  obtain ⟨t, worked⟩ := enough.2 (by decide)
  obtain ⟨size, pointer, -⟩ := shape t worked
  rw [left, right] at size
  rw [left, moved] at pointer
  change (t.size : Int) = 2 + 3 * (chunksFor 3 4 + chunksFor 3 2) at size
  change (t.pointer : Int) = 3 + 3 * chunksFor 3 4 at pointer
  rw [before, behind] at size
  rw [before] at pointer
  exact ⟨valid, left, right, before, behind, t, worked, size, pointer⟩

/-- A chunk that no memory has room for: the one move to the right is stopped. -/
theorem oversized_chunk_stops_move :
    let settings : Settings := { initialCells := 1, growthChunk := 2 ^ 60 }
    settings.Valid ∧ worked? 64 settings [.right] = none := by
  intro settings
  exact ⟨by constructor <;> decide, by decide⟩

end Guarded

end TapeMachine

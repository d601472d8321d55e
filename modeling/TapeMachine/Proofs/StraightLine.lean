import Mathlib.Data.List.Count
import TapeMachine.Proofs.Evaluation
import TapeMachine.Proofs.GuardedRun
import TapeMachine.Proofs.TapeExtent

/-! Stretches of a program that only work on the tape. They take one step for each token and cannot fail,
and every cell ends with the increments less the decrements that were done while the pointer was there,
modulo the number of values of a cell. -/
namespace TapeMachine

open Machine

/-- By how much the value under the pointer rises. -/
def TapeAction.gain : TapeAction → Int
  | .increment => 1
  | .decrement => -1
  | .right | .left | .fill _ => 0

/-- The increments less the decrements done at a place, seen from where the pointer begins. -/
def tally : List TapeAction → (place : Int) → Int
  | [], _ => 0
  | action :: rest, place =>
    (if place = 0 then action.gain else 0) + tally rest (place - action.shift)

/-- Nothing is written over. -/
def Counting (actions : List TapeAction) : Prop :=
  ∀ action ∈ actions, ∀ value, action ≠ .fill value

section Tally

variable {action : TapeAction} {actions : List TapeAction}

theorem displacement_cons (action : TapeAction) (rest : List TapeAction) :
    displacement (action :: rest) = action.shift + displacement rest := by
  simp [displacement]

theorem places_cons (action : TapeAction) (rest : List TapeAction) :
    places (action :: rest) = 0 :: (places rest).map (action.shift + ·) := by
  have behind : displacement ∘ (action :: ·) = (action.shift + ·) ∘ displacement :=
    funext fun actions => displacement_cons action actions
  simp only [places, List.inits_cons, List.map_cons, List.map_map, behind]
  rfl

theorem tally_append (xs ys : List TapeAction) (place : Int) :
    tally (xs ++ ys) place = tally xs place + tally ys (place - displacement xs) := by
  induction xs generalizing place with
  | nil => simp [tally, displacement]
  | cons action rest ih =>
    have there : place - action.shift - displacement rest =
        place - (action.shift + displacement rest) := by omega
    rw [List.cons_append, tally, ih, tally, displacement_cons, there, Int.add_assoc]

/-- Where the pointer has not been, nothing was counted. -/
theorem tally_eq_zero {place : Int} (unvisited : place ∉ places actions) : tally actions place = 0 := by
  induction actions generalizing place with
  | nil => rfl
  | cons action rest ih =>
    rw [places_cons, List.mem_cons, not_or] at unvisited
    obtain ⟨elsewhere, later⟩ := unvisited
    rw [tally, if_neg elsewhere, Int.zero_add]
    apply ih
    intro visited
    exact later (List.mem_map.2 ⟨_, visited, by omega⟩)

namespace EndlessTape

theorem head_act (width : Nat) (e : EndlessTape) (action : TapeAction) :
    (e.act width action).head = e.head + action.shift := by
  cases action <;> simp [act, put, TapeAction.shift, Int.sub_eq_add_neg]

theorem head_actions (width : Nat) (e : EndlessTape) (actions : List TapeAction) :
    (actions.foldl (act width) e).head = e.head + displacement actions := by
  induction actions generalizing e with
  | nil => exact (Int.add_zero _).symm
  | cons action rest ih =>
    rw [List.foldl_cons, ih, head_act, displacement_cons, Int.add_assoc]

theorem values_put (e : EndlessTape) (width : Nat) (gain place : Int) :
    (e.put width (e.values e.head + gain)).values place % 2 ^ width =
      (e.values place + if place = e.head then gain else 0) % 2 ^ width := by
  by_cases here : place = e.head
  · rw [if_pos here, here, put_here, Int.emod_emod]
  · rw [if_neg here, put_elsewhere here, Int.add_zero]

theorem values_act (counts : ∀ value, action ≠ .fill value) (width : Nat) (e : EndlessTape)
    (place : Int) :
    (e.act width action).values place % 2 ^ width =
      (e.values place + if place = e.head then action.gain else 0) % 2 ^ width := by
  cases action with
  | right | left => simp [act, TapeAction.gain]
  | increment => exact e.values_put width 1 place
  | decrement => exact e.values_put width (-1) place
  | fill value => exact absurd rfl (counts value)

theorem values_actions (counting : Counting actions) (width : Nat) (e : EndlessTape) (place : Int) :
    (actions.foldl (act width) e).values place % 2 ^ width =
      (e.values place + tally actions (place - e.head)) % 2 ^ width := by
  induction actions generalizing e with
  | nil => rw [tally, Int.add_zero, List.foldl_nil]
  | cons action rest ih =>
    obtain ⟨first, later⟩ := List.forall_mem_cons.1 counting
    have here : place - e.head = 0 ↔ place = e.head := by omega
    have seen : place - e.head - action.shift = place - (e.head + action.shift) := by omega
    rw [List.foldl_cons, ih later, head_act, Int.add_emod, values_act first, ← Int.add_emod, tally]
    simp only [here, seen, Int.add_assoc]

end EndlessTape

end Tally

namespace Tape

theorem Fits.view {settings : Settings} {t : Tape} (fits : t.Fits settings) (distance : Int) :
    (t.view distance).Fits settings.cellBits := by
  have blank : (Cell.blank t.width).Fits settings.cellBits := fits.width_eq ▸ .blank _
  unfold Tape.view
  split
  · rw [Array.getD_eq_getD_getElem?]
    cases stored : t.cells[(t.pointer + distance).toNat]? with
    | none => exact blank
    | some cell => exact fits.cells cell (Array.mem_of_getElem? stored)
  · exact blank

/-- What is seen from the pointer, as an endless tape with its head at the place zero. -/
def seen (t : Tape) : EndlessTape :=
  ⟨fun distance => (t.view distance).value.toNat, 0⟩

theorem Fits.represents_seen {settings : Settings} {t : Tape} (fits : t.Fits settings) :
    Represents settings t t.seen :=
  ⟨fits, fun distance => by rw [seen, Int.zero_add]⟩

/-- Places are told by their distance from where the pointer was before. -/
theorem Fits.view_actions {settings : Settings} {t : Tape} {actions : List TapeAction}
    (valid : settings.Valid) (fits : t.Fits settings) (counting : Counting actions) (place : Int) :
    (((actions.foldl act t).view (place - displacement actions)).value.toNat : Int) =
      ((t.view place).value.toNat + tally actions place) % 2 ^ settings.cellBits := by
  have shown := fits.represents_seen.actions valid actions
  have inside := (shown.fits.view (place - displacement actions)).value_lt
  have head := t.seen.head_actions settings.cellBits actions
  have start : t.seen.head = 0 := rfl
  have values := t.seen.values_actions counting settings.cellBits place
  have there : 0 + displacement actions + (place - displacement actions) = place := by omega
  have view := shown.view (place - displacement actions)
  rw [head, start, there] at view
  rw [start, Int.sub_zero, ← view] at values
  change _ = (t.seen.values place + _) % _
  rw [← values, Int.emod_eq_of_lt (Int.natCast_nonneg _) (by exact_mod_cast inside)]

end Tape

/-! ## Tokens that work on the tape -/

/-- What the token does to the tape, if it does nothing else. -/
def Token.action? : Token → Option TapeAction
  | .increment => some .increment
  | .decrement => some .decrement
  | .right => some .right
  | .left => some .left
  | .input | .output | .loopStart | .loopEnd | .undefined _ => none

def actionsOf (tokens : List Token) : List TapeAction :=
  tokens.filterMap Token.action?

def Straight (tokens : List Token) : Prop :=
  ∀ token ∈ tokens, token.action?.isSome

/-- Besides blanks there are only the four commands that work on the tape. -/
def StraightText (text : String) : Prop :=
  ∀ c ∈ text.toList, isBlank c = true ∨ c ∈ ['+', '-', '>', '<']

instance (text : String) : Decidable (StraightText text) :=
  List.decidableBAll _ text.toList

def Store.worked (s : Store) (tokens : List Token) : Store :=
  { s with tape := (actionsOf tokens).foldl Tape.act s.tape }

section Tokens

variable {tokens stretch rest whole : List Token} {token : Token} {action : TapeAction}
  {balance : Int} {isLoop : Bool} {outer : List Frame} {s : Store} {steps : Nat}

theorem counting_actionsOf (tokens : List Token) : Counting (actionsOf tokens) := by
  intro action listed value filled
  obtain ⟨token, -, works⟩ := List.mem_filterMap.1 listed
  rw [filled] at works
  cases token <;> simp [Token.action?] at works

theorem actionsOf_of_action (works : token.action? = some action) (rest : List Token) :
    actionsOf (token :: rest) = action :: actionsOf rest := by
  simp [actionsOf, works]

theorem displacement_actionsOf (tokens : List Token) :
    displacement (actionsOf tokens) = tokens.count .right - tokens.count .left := by
  induction tokens with
  | nil => rfl
  | cons token rest ih =>
    cases works : token.action? with
    | none =>
      have still : token ≠ .right ∧ token ≠ .left := by
        constructor <;> rintro rfl <;> simp [Token.action?] at works
      rw [actionsOf, List.filterMap_cons_none works, ← actionsOf, ih, List.count_cons_of_ne still.1,
        List.count_cons_of_ne still.2]
    | some action =>
      rw [actionsOf_of_action works, displacement_cons, ih, List.count_cons, List.count_cons]
      cases token <;> cases works <;> simp [TapeAction.shift] <;> omega

theorem isBracket_of_action (works : token.action? = some action) : token.isBracket = false := by
  cases token <;> cases works <;> rfl

theorem Straight.balanced (straight : Straight tokens) : Balanced tokens := by
  induction tokens with
  | nil => rfl
  | cons token rest ih =>
    obtain ⟨first, later⟩ := List.forall_mem_cons.1 straight
    obtain ⟨action, works⟩ := Option.isSome_iff_exists.1 first
    exact (balanced_plain (isBracket_of_action works)).append (ih later)

theorem Store.perform_of_action (works : token.action? = some action) (s : Store) :
    s.perform token = .ok { s with tape := s.tape.act action } := by
  cases token <;> cases works <;> rfl

theorem worked_cons (works : token.action? = some action) (s : Store) (rest : List Token) :
    s.worked (token :: rest) = Store.worked { s with tape := s.tape.act action } rest := by
  rw [Store.worked, actionsOf_of_action works]
  rfl

theorem actionsOf_append (xs ys : List Token) :
    actionsOf (xs ++ ys) = actionsOf xs ++ actionsOf ys :=
  List.filterMap_append

theorem worked_append (s : Store) (xs ys : List Token) :
    s.worked (xs ++ ys) = (s.worked xs).worked ys := by
  rw [Store.worked, actionsOf_append, List.foldl_append]
  rfl

/-- A stretch anywhere in a program takes a step for each token, and goes on with what stands behind. -/
theorem proceeds_straight (straight : Straight stretch) :
    Proceeds stretch.length
      (s.machine (⟨whole, stretch ++ rest, balance, isLoop⟩ :: outer) steps)
      ((s.worked stretch).machine (⟨whole, rest, balance, isLoop⟩ :: outer)
        (steps + stretch.length)) := by
  induction stretch generalizing s steps with
  | nil => exact .refl _
  | cons token stretch ih =>
    obtain ⟨first, later⟩ := List.forall_mem_cons.1 straight
    obtain ⟨action, works⟩ := Option.isSome_iff_exists.1 first
    have stepped := @step_perform s whole (stretch ++ rest) token balance isLoop outer steps _
      (isBracket_of_action works) (s.perform_of_action works)
    have counted : steps + (token :: stretch).length = steps + 1 + stretch.length := by
      rw [List.length_cons]
      omega
    rw [counted, worked_cons works]
    exact .of_step stepped (ih later)

theorem halts_straight (straight : Straight tokens) (s : Store) :
    Halts tokens.length (s.machine [.program tokens] 0) (.ok s.output)
      ((s.worked tokens).machine [] tokens.length).drained := by
  have proceeds := @proceeds_straight tokens [] tokens 0 false [] s 0 straight
  rw [List.append_nil, Nat.zero_add] at proceeds
  exact proceeds.halts (halts_at_end (s.worked tokens) tokens 0 tokens.length)

end Tokens

section Texts

variable {text : String}

theorem straight_tokenize (straight : StraightText text) : Straight (tokenize text) := by
  intro token listed
  obtain ⟨c, kept, rfl⟩ := List.mem_map.1 listed
  obtain ⟨written, visible⟩ := List.mem_filter.1 kept
  rcases straight c written with blank | command
  · simp [blank] at visible
  · simp only [List.mem_cons, List.not_mem_nil, or_false] at command
    rcases command with rfl | rfl | rfl | rfl <;> rfl

/-- As many tokens as there are characters of which they are made. -/
theorem count_tokenize {c : Char} (visible : isBlank c = false) (text : String) :
    (tokenize text).count (.ofChar c) = text.toList.count c := by
  have injective : Function.Injective Token.ofChar := Function.LeftInverse.injective Token.toChar_ofChar
  rw [tokenize, List.count_map_of_injective _ _ injective, List.count_filter (by simp [visible])]

theorem displacement_of_text (text : String) :
    displacement (actionsOf (tokenize text)) = text.toList.count '>' - text.toList.count '<' := by
  rw [displacement_actionsOf, ← @count_tokenize '>' (by decide), ← @count_tokenize '<' (by decide)]
  rfl

end Texts

section Start

variable {indexBits : Nat} {settings : Settings} {program input : String} {m : Machine}

theorem view_of_new_tape (valid : settings.Valid) {actions : List TapeAction}
    (counting : Counting actions) (place : Int) :
    let t := actions.foldl Tape.act
      (.blank settings.initialCells settings.growthChunk settings.cellBits)
    ((t.view (place - displacement actions)).value.toNat : Int) =
      tally actions place % 2 ^ settings.cellBits := by
  intro t
  have value := (Tape.Fits.blank valid).view_actions valid counting place
  rw [Tape.view_blank] at value
  simpa [Cell.blank] using value

theorem run_straight {count : Nat} (length : (tokenize program).length = count)
    (straight : Straight (tokenize program)) (enough : Allows settings.stepLimit count) :
    ∃ r, (Machine.start settings program input).run (count + 1) = some r ∧ r.answer = .ok "" ∧
      r.machine.steps = count ∧ r.machine.input = input.toList ∧
      r.machine.tape = (actionsOf (tokenize program)).foldl Tape.act
        (.blank settings.initialCells settings.growthChunk settings.cellBits) := by
  have halts := halts_straight straight (.fresh settings input)
  rw [length] at halts
  have limited := halts.withLimit enough (by simp)
  obtain ⟨r, ran, answer, machine⟩ := runAfter_iff_halts.2 ⟨count, Nat.lt_succ_self count, limited⟩
  refine ⟨r, ran, answer, ?_⟩
  rw [machine]
  exact ⟨rfl, rfl, rfl⟩

theorem length_filter_lt (held : program.utf8ByteSize < 2 ^ (indexBits - 1)) (words : indexBits ≤ 64) :
    (program.toList.filter fun c => !isBlank c).length < 2 ^ 64 := by
  have short := length_tokenize_le program
  have signed : 2 ^ (indexBits - 1) ≤ 2 ^ 64 := Nat.pow_le_pow_right (by decide) (by omega)
  rw [tokenize, List.length_map] at short
  omega

/-- A program that only works on the tape ends well under every limit that allows one step for each of its
characters but the blanks, as long as there is memory for the cells that its farthest places need; else it is
stopped. It writes and reads nothing, its pointer ends as far to the right as its moves say, and each place
holds what was counted there: zero, where the pointer has not been. -/
theorem straight_line_counts (loaded : load? indexBits settings program input = some (.ok m))
    (held : program.utf8ByteSize < 2 ^ (indexBits - 1)) (words : indexBits ≤ 64)
    (straight : StraightText program)
    (enough : Allows settings.stepLimit (program.toList.filter fun c => !isBlank c).length) :
    let count := (program.toList.filter fun c => !isBlank c).length
    let actions := actionsOf (tokenize program)
    let travelled : Int := program.toList.count '>' - program.toList.count '<'
    let chunk := settings.growthChunk
    let before := chunksFor chunk (-leftmost actions)
    let behind := chunksFor chunk (max 0 (rightmost actions - settings.initialCells + 1))
    let length : Int := settings.initialCells + chunk * (before + behind)
    (8 * length < 2 ^ (indexBits - 1) →
      ∃ r, m.run? indexBits (count + 1) = some (some r) ∧ r.answer = .ok "" ∧
        r.machine.steps = count ∧ r.machine.input = input.toList ∧
        (r.machine.tape.pointer : Int) = travelled + chunk * before ∧
        ∀ place, let cell := r.machine.tape.view (place - travelled)
          (cell.value.toNat : Int) = tally actions place % 2 ^ settings.cellBits ∧
            (place ∉ places actions → cell.value = 0)) ∧
    (2 ^ (indexBits - 1) ≤ 8 * length → m.run? indexBits (count + 1) = none) := by
  intro count actions travelled chunk before behind length
  obtain ⟨valid, rfl⟩ := load_eq_ok_iff.1 (load?_eq_ok_iff.1 loaded).1
  have moved : displacement actions = travelled := displacement_of_text program
  obtain ⟨r, ran, answer, steps, unread, tape⟩ :=
    @run_straight settings program input count (List.length_map ..) (straight_tokenize straight) enough
  obtain ⟨-, grown, pointer⟩ :=
    shape_of_new_tape valid.cells_pos valid.chunk_pos settings.cellBits actions
  have size : (r.machine.tape.size : Int) = length := tape ▸ grown
  obtain ⟨ends, stops⟩ := (runsTo_of_load loaded held ran).decided size fun _ =>
    steps ▸ length_filter_lt held words
  refine ⟨fun enough => ⟨r, ends enough, answer, steps, unread, ?_, fun place => ?_⟩, stops⟩
  · rw [tape, ← moved]
    exact pointer
  · have value := view_of_new_tape valid (counting_actionsOf (tokenize program)) place
    rw [← tape, moved] at value
    refine ⟨value, fun unvisited => ?_⟩
    rw [tally_eq_zero unvisited, Int.zero_emod] at value
    exact UInt32.toNat_inj.1 (Int.ofNat_inj.1 value)

/-- Cells of three bits on a tape of one cell, under a limit that is just enough: two places to the left,
where the decrements are nine more than the increments, and back. -/
theorem nine_below_zero_counted :
    let settings : Settings :=
      { cellBits := 3, initialCells := 1, growthChunk := 3, stepLimit := some 19 }
    let program := "<<\n++ ----- ------ >>> \t+ "
    let m := start settings program "x"
    load? 64 settings program "x" = some (.ok m) ∧ program.utf8ByteSize < 2 ^ (64 - 1) ∧
      StraightText program ∧
      Allows settings.stepLimit (program.toList.filter fun c => !isBlank c).length ∧
      ∃ r, m.run? 64 20 = some (some r) ∧ r.answer = .ok "" ∧ r.machine.steps = 19 ∧
        r.machine.input = ['x'] ∧ (r.machine.tape.pointer : Int) = 1 + 3 * 1 ∧
        ((r.machine.tape.view (-2 - 1)).value.toNat : Int) = -9 % 2 ^ 3 ∧
        (r.machine.tape.view (5 - 1)).value = 0 := by
  intro settings program m
  have loaded : load? 64 settings program "x" = some (.ok m) := rfl
  have held : program.utf8ByteSize < 2 ^ (64 - 1) := by decide
  have straight : StraightText program := by decide
  have count : (program.toList.filter fun c => !isBlank c).length = 19 := by decide
  have enough : Allows settings.stepLimit (program.toList.filter fun c => !isBlank c).length :=
    allows_some_iff.2 (by decide)
  have left : leftmost (actionsOf (tokenize program)) = -2 := by decide
  have right : rightmost (actionsOf (tokenize program)) = 1 := by decide
  have before : chunksFor 3 2 = 1 := (chunksFor_eq_iff (by decide)).2 (by decide)
  have behind : chunksFor 3 1 = 1 := (chunksFor_eq_iff (by decide)).2 (by decide)
  have travelled : (program.toList.count '>' : Int) - program.toList.count '<' = 1 := by decide
  have below : tally (actionsOf (tokenize program)) (-2) = -9 := by decide
  have unvisited : 5 ∉ places (actionsOf (tokenize program)) := by decide
  obtain ⟨ends, -⟩ := straight_line_counts loaded held (by decide) straight enough
  rw [count, travelled, left, right] at ends
  obtain ⟨r, ran, answer, steps, unread, pointer, cells⟩ := ends (by
    change 8 * ((1 : Int) + 3 * (chunksFor 3 2 + chunksFor 3 1)) < 2 ^ 63
    rw [before, behind]
    decide)
  change (r.machine.tape.pointer : Int) = 1 + 3 * chunksFor 3 2 at pointer
  rw [before] at pointer
  have written := (cells (-2)).1
  rw [below] at written
  exact ⟨loaded, held, straight, enough, r, ran, answer, steps, unread, pointer, written,
    (cells 5).2 unvisited⟩

/-- One move to the right, for which there is not enough memory. -/
theorem oversized_chunk_stops_program :
    let settings : Settings := { initialCells := 1, growthChunk := 2 ^ 60 }
    let m := start settings ">+" ""
    load? 64 settings ">+" "" = some (.ok m) ∧ StraightText ">+" ∧ Allows settings.stepLimit 2 ∧
      m.run? 64 3 = none := by
  intro settings m
  exact ⟨rfl, by decide, allows_none 2, by decide⟩

end Start

end TapeMachine

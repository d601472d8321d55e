import TapeMachine.Proofs.Partner
import TapeMachine.Proofs.Transition

/-! The frames of a machine placed in its program. Each loop frame runs between two partners, and the
frame below it waits just behind them; so one index into the program tells where the machine is. -/
namespace TapeMachine

open Machine

/-- Frames at an index of the program, with the pairs of brackets around it, the innermost first. What a
loop still has to run is balanced; the program may be anything, and may have been left unbalanced by
tokens that failed. -/
inductive Placed (program : List Token) : List Frame → (index : Nat) → List (Nat × Nat) → Prop
  | program {index rest balance} : index ≤ program.length → Settled program index →
      rest = slice program index program.length → balance ≤ 0 →
      Placed program [⟨program, rest, balance, false⟩] index []
  | loop {tokens rest i j index outer loops} : Partner program i j → i < index → index ≤ j →
      tokens = slice program (i + 1) j → rest = slice program index j → Balanced rest →
      Placed program outer (j + 1) loops →
      Placed program (⟨tokens, rest, 0, true⟩ :: outer) index ((i, j) :: loops)

namespace Placed

variable {program tokens rest body after : List Token} {token : Token} {balance : Int}
  {isLoop : Bool} {outer frames : List Frame} {index i j : Nat} {loops : List (Nat × Nat)}

theorem start : Placed program [.program program] 0 [] :=
  .program (Nat.zero_le _) .zero slice_all.symm (Int.le_refl 0)

theorem balance_le (placed : Placed program (⟨tokens, rest, balance, isLoop⟩ :: outer) index loops) :
    balance ≤ 0 := by
  cases placed with
  | program _ _ _ met => exact met
  | loop => exact Int.le_refl 0

theorem rest_eq (placed : Placed program (⟨tokens, rest, balance, isLoop⟩ :: outer) index loops) :
    ∃ stop, index ≤ stop ∧ rest = slice program index stop := by
  cases placed with
  | program bound _ same _ => exact ⟨_, bound, same⟩
  | loop _ _ bound _ same _ _ => exact ⟨_, bound, same⟩

theorem here (placed : Placed program (⟨tokens, token :: rest, balance, isLoop⟩ :: outer) index loops) :
    program[index]? = some token := by
  obtain ⟨stop, _, same⟩ := placed.rest_eq
  exact (slice_head same.symm).1

/-- Past a balanced stretch the frames are placed as before. -/
theorem move {stretch : List Token} (balanced : Balanced stretch)
    (placed : Placed program (⟨tokens, stretch ++ rest, balance, isLoop⟩ :: outer) index loops) :
    Placed program (⟨tokens, rest, balance, isLoop⟩ :: outer) (index + stretch.length) loops := by
  cases placed with
  | program bound settled same met =>
    obtain ⟨inside, left, right⟩ := slice_parts bound same.symm
    refine .program inside (settled.advance ?_ (by omega)) right.symm met
    rwa [left]
  | loop partner after bound whole same closed below =>
    obtain ⟨inside, left, right⟩ := slice_parts bound same.symm
    exact .loop partner (by omega) inside whole right.symm (closed.of_append balanced) below

theorem plain (placed : Placed program (⟨tokens, token :: rest, balance, isLoop⟩ :: outer) index loops)
    (plain : token.isBracket = false) :
    Placed program (⟨tokens, rest, balance, isLoop⟩ :: outer) (index + 1) loops :=
  placed.move (balanced_plain plain)

theorem loopStart
    (placed : Placed program (⟨tokens, .loopStart :: rest, balance, isLoop⟩ :: outer) index loops)
    (found : loopBody rest = some (body, after)) :
    let j := index + 1 + body.length
    Partner program index j ∧
      Placed program (⟨tokens, after, balance, isLoop⟩ :: outer) (j + 1) loops ∧
      Placed program (.loop body :: ⟨tokens, after, balance, isLoop⟩ :: outer) (index + 1)
        ((index, j) :: loops) := by
  obtain ⟨stop, _, same⟩ := placed.rest_eq
  obtain ⟨opens, more⟩ := slice_head same.symm
  rw [slice_cons opens more, List.cons.injEq] at same
  rw [same.2] at found
  obtain ⟨partner, inside, left, right⟩ := partner_of_loopBody opens more found
  obtain ⟨split, balanced⟩ := loopBody_eq_some_iff.1 found
  have skipped : Placed program (⟨tokens, after, balance, isLoop⟩ :: outer)
      (index + 1 + body.length + 1) loops := by
    have stretch : .loopStart :: rest = (.loopStart :: body ++ [.loopEnd]) ++ after := by
      rw [same.2, split]
      simp
    rw [stretch] at placed
    have moved := placed.move (balanced_loop balanced)
    simpa [Nat.add_comm, Nat.add_left_comm] using moved
  exact ⟨partner, skipped,
    .loop partner (by omega) (by omega) left.symm left.symm balanced skipped⟩

/-- A bracket that fails is met by the program itself, never inside a loop, and has no partner. -/
theorem unmatched {balance' : Int}
    (placed : Placed program (⟨tokens, token :: rest, balance, isLoop⟩ :: outer) index loops)
    (failing : token = .loopEnd ∨ token = .loopStart ∧ loopBody rest = none)
    (lower : balance' ≤ balance) :
    Lone program index ∧ tokens = program ∧ outer = [] ∧
      Placed program (⟨tokens, rest, balance', isLoop⟩ :: outer) (index + 1) loops := by
  cases placed with
  | loop _ _ _ _ _ closed _ =>
    rcases failing with rfl | ⟨rfl, unclosed⟩
    · exact absurd closed (not_balanced_loopEnd rest)
    · obtain ⟨body, after, split, balanced, _⟩ := closed.loop_cases
      exact absurd balanced (loopBody_eq_none_iff.1 unclosed body after split)
  | program bound settled same met =>
    obtain ⟨here, more⟩ := slice_head same.symm
    rw [slice_cons here more, List.cons.injEq] at same
    have lone : Lone program index := by
      rcases failing with rfl | ⟨rfl, unclosed⟩
      · exact settled.lone_of_loopEnd here
      · rw [same.2] at unclosed
        exact lone_of_loopStart here unclosed
    exact ⟨lone, rfl, rfl, .program more (settled.succ lone) same.2 (by omega)⟩

theorem ne_nil (placed : Placed program frames index loops) : frames ≠ [] := by
  cases placed <;> simp

/-- At the end of its body a loop is left for the frame below, or begun again. -/
theorem loop_end (placed : Placed program (⟨tokens, [], balance, true⟩ :: outer) index loops) :
    ∃ i loops', Partner program i index ∧ Placed program outer (index + 1) loops' ∧
      Placed program (⟨tokens, tokens, balance, true⟩ :: outer) (i + 1) loops := by
  cases placed with
  | @loop _ _ i j _ _ loops' partner after bound whole same _ below =>
    have inside := (List.getElem?_eq_some_iff.1 partner.closes).1
    have ordered := partner.ordered
    obtain rfl := slice_eq_nil same.symm bound (by omega)
    have balanced := partner.inside
    rw [← whole] at balanced
    exact ⟨i, loops', partner, below,
      .loop partner (by omega) (by omega) whole whole balanced below⟩

/-- Where a loop of the program opens, the top frame finds its body. -/
theorem at_opening (placed : Placed program frames index loops) (partner : Partner program index j) :
    ∃ tokens rest balance isLoop outer after,
      frames = ⟨tokens, .loopStart :: rest, balance, isLoop⟩ :: outer ∧
      loopBody rest = some (slice program (index + 1) j, after) := by
  have inside := (List.getElem?_eq_some_iff.1 partner.closes).1
  have ordered := partner.ordered
  cases placed with
  | program bound settled same met =>
    rw [slice_cons partner.opens (by omega)] at same
    exact ⟨_, _, _, _, _, _, by rw [same], partner.loopBody inside⟩
  | @loop _ _ k l _ _ _ around after bound whole same _ _ =>
    have other := partner.start_ne_end around
    rw [slice_cons partner.opens (by omega)] at same
    have within := around.nested partner after (by omega)
    exact ⟨_, _, _, _, _, _, by rw [same], partner.loopBody within⟩

/-- Where a loop of the program closes, the top frame has run all of its body. -/
theorem at_closing (placed : Placed program frames index loops) (partner : Partner program i index) :
    ∃ balance outer, frames = ⟨slice program (i + 1) index, [], balance, true⟩ :: outer := by
  cases placed with
  | program _ settled _ _ =>
    have passed := settled i index partner partner.ordered
    omega
  | @loop _ _ k l _ outer _ around after bound whole same closed _ =>
    rcases Nat.lt_or_eq_of_le bound with before | rfl
    · rw [same, slice_cons partner.closes before] at closed
      exact absurd closed (not_balanced_loopEnd _)
    · obtain rfl := around.start_unique partner
      exact ⟨0, outer, by rw [whole, same, slice_self]⟩

theorem program_end (placed : Placed program (⟨tokens, [], balance, false⟩ :: outer) index loops) :
    outer = [] ∧ index = program.length := by
  cases placed with
  | program bound _ same _ => exact ⟨rfl, slice_eq_nil same.symm bound (Nat.le_refl _)⟩

/-! ## The pairs around an index -/

theorem length_eq (placed : Placed program frames index loops) :
    frames.length = loops.length + 1 := by
  induction placed with
  | program => rfl
  | loop _ _ _ _ _ _ _ ih => rw [List.length_cons, List.length_cons, ih]

/-- The pairs of the placement are all pairs of brackets with the index between them. -/
theorem mem_loops_iff (placed : Placed program frames index loops) :
    (i, j) ∈ loops ↔ Partner program i j ∧ i < index ∧ index ≤ j := by
  induction placed with
  | program _ settled _ _ =>
    simp only [List.not_mem_nil, false_iff, not_and, Nat.not_le]
    exact fun partner before => settled i j partner before
  | @loop _ _ i' j' index _ loops partner after bound _ same closed _ ih =>
    rw [List.mem_cons, Prod.mk.injEq, ih]
    rw [same] at closed
    constructor
    · rintro (⟨rfl, rfl⟩ | ⟨around, before, behind⟩)
      · exact ⟨partner, after, bound⟩
      · refine ⟨around, ?_, by omega⟩
        refine Nat.lt_of_not_le fun later => ?_
        have distinct := around.start_ne_end partner
        have inner := partner.nested around (by omega) (by omega)
        omega
    · rintro ⟨around, before, behind⟩
      rcases Nat.lt_trichotomy i i' with earlier | rfl | later
      · have outer := around.nested partner earlier (by omega)
        exact .inr ⟨around, by omega, outer⟩
      · exact .inl ⟨rfl, around.end_unique partner⟩
      · have inner := partner.nested around later (by omega)
        have across := closed.not_crossed around before behind
        omega

theorem nodup_loops (placed : Placed program frames index loops) : loops.Nodup := by
  induction placed with
  | program => exact List.nodup_nil
  | @loop _ _ i' j' _ _ _ _ _ _ _ _ _ below ih =>
    refine List.nodup_cons.2 ⟨fun listed => ?_, ih⟩
    have behind := (below.mem_loops_iff.1 listed).2.2
    omega

end Placed

end TapeMachine

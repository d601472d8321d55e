import Mathlib.Data.List.Chain
import Mathlib.Data.List.MinMax
import TapeMachine.Proofs.JumpMachine

/-! The frames of a machine as a stack. The program is at the bottom; every other frame holds the body of
a loop that the frame below it has just gone past. So there are never more loops running than loops of
the program lie in one another. -/
namespace TapeMachine

open Machine

namespace Frame

/-- What is left to run is what stands at the cursor. -/
structure Aligned (f : Frame) : Prop where
  cursor_le : f.cursor ≤ f.tokens.length
  rest_eq : f.rest = f.tokens.drop f.cursor

section Seek

variable {f : Frame} {cursor : Nat} {token : Token} {rest : List Token}

theorem cursor_seek (inside : cursor ≤ f.tokens.length) : (f.seek cursor).cursor = cursor := by
  simp only [Frame.cursor, seek, List.length_drop]
  omega

theorem aligned_seek (inside : cursor ≤ f.tokens.length) : (f.seek cursor).Aligned := by
  have same := cursor_seek inside
  exact ⟨by rwa [same], by rw [same, seek]⟩

theorem Aligned.getElem? (aligned : f.Aligned) : f.tokens[f.cursor]? = f.rest.head? := by
  rw [aligned.rest_eq, List.head?_drop]

theorem Aligned.next (aligned : f.Aligned) (left : f.rest = token :: rest) :
    f.cursor < f.tokens.length ∧ f.seek (f.cursor + 1) = { f with rest } := by
  have same := aligned.rest_eq
  rw [left] at same
  have inside : f.cursor < f.tokens.length := by
    have total := congrArg List.length same
    rw [List.length_cons, List.length_drop] at total
    omega
  have tail : f.tokens.drop (f.cursor + 1) = rest := by
    rw [← List.drop_drop, ← same]
    rfl
  exact ⟨inside, by rw [Frame.seek, tail]⟩

end Seek

/-- A loop frame holds a balanced body, of which it has run a balanced part. -/
structure IsBody (f : Frame) : Prop where
  isLoop : f.isLoop = true
  balance : f.balance = 0
  whole : Balanced f.tokens
  passed : Balanced (f.tokens.take f.cursor)

/-- The outer frame stands just behind the end of a loop, and the inner one holds that loop's body. -/
def BodyOf (inner outer : Frame) : Prop :=
  ∃ i, Partner outer.tokens i (outer.cursor - 1) ∧
    inner.tokens = slice outer.tokens (i + 1) (outer.cursor - 1)

end Frame

/-- Frames that can be met while the program runs, the innermost first. -/
structure Stacked (program : List Token) (frames : List Frame) : Prop where
  bottom : ∃ base, frames.getLast? = some base ∧ base.tokens = program ∧ base.isLoop = false
  loops : ∀ f ∈ frames.dropLast, f.IsBody
  cursors : ∀ f ∈ frames, f.Aligned
  chain : frames.IsChain Frame.BodyOf

/-- The number of pairs of brackets that the pair lies in, itself among them. -/
def nestingOf (tokens : List Token) (pair : Nat × Nat) : Nat :=
  (bracketPairs tokens).countP fun other => other.1 ≤ pair.1 ∧ pair.2 ≤ other.2

/-- How many pairs of brackets lie in one another at most. -/
def maxNesting (tokens : List Token) : Nat :=
  ((bracketPairs tokens).map (nestingOf tokens)).foldr max 0

namespace Placed

variable {program : List Token} {top : Frame} {outer frames : List Frame} {index i j : Nat}
  {loops : List (Nat × Nat)}

/-- The part of the program that the top frame holds. Loops passed last lie in it. -/
theorem extent (placed : Placed program (top :: outer) index loops) :
    ∃ first last, top.tokens = slice program first last ∧ top.rest = slice program index last ∧
      first ≤ index ∧ index ≤ last ∧ last ≤ program.length ∧
      ∀ i j, Partner program i j → j + 1 = index → first ≤ i := by
  cases placed with
  | program inside _ same _ =>
    exact ⟨0, program.length, slice_all.symm, same, Nat.zero_le _, inside, Nat.le_refl _,
      fun _ _ _ _ => Nat.zero_le _⟩
  | @loop _ _ i j _ _ _ partner after bound whole same _ _ =>
    have inside := (List.getElem?_eq_some_iff.1 partner.closes).1
    refine ⟨i + 1, j, whole, same, after, bound, Nat.le_of_lt inside, fun k l passed behind => ?_⟩
    have distinct := partner.start_ne_end passed
    rcases Nat.lt_trichotomy i k with later | rfl | earlier
    · exact later
    · have closed := partner.end_unique passed
      omega
    · have closed := passed.nested partner earlier (by omega)
      omega

theorem cursor_of_extent {first last : Nat} (whole : top.tokens = slice program first last)
    (left : top.rest = slice program index last) (from_start : first ≤ index)
    (before_end : index ≤ last) (inside : last ≤ program.length) :
    top.cursor = index - first ∧ top.Aligned := by
  have cursor : top.cursor = index - first := by
    simp only [Frame.cursor, whole, left, length_slice]
    omega
  have index_eq : first + (index - first) = index := by omega
  refine ⟨cursor, ?_, ?_⟩
  · simp only [cursor, whole, length_slice]
    omega
  · rw [cursor, whole, slice_drop, index_eq, left]

theorem aligned (placed : Placed program (top :: outer) index loops) : top.Aligned := by
  obtain ⟨first, last, whole, left, from_start, before_end, inside, -⟩ := placed.extent
  exact (cursor_of_extent whole left from_start before_end inside).2

/-- The frame below a loop holds the loop in its own tokens. -/
theorem bodyOf (partner : Partner program i j) {inner : Frame}
    (body : inner.tokens = slice program (i + 1) j)
    (below : Placed program (top :: outer) (j + 1) loops) : inner.BodyOf top := by
  have ordered := partner.ordered
  obtain ⟨first, last, whole, left, from_start, before_end, inside, covers⟩ := below.extent
  have cursor := (cursor_of_extent whole left from_start before_end inside).1
  have start := covers i j partner rfl
  have stop : top.cursor - 1 = j - first := by omega
  have opening : first + (i - first + 1) = i + 1 := by omega
  have closing : first + (j - first) = j := by omega
  refine ⟨i - first, ?_, ?_⟩
  · rw [stop, whole]
    exact partner.within start (by omega)
  · rw [stop, whole, slice_slice (by omega) (by omega), opening, closing, body]

theorem isBody {tokens rest : List Token} (partner : Partner program i j) (after : i < index)
    (bound : index ≤ j) (whole : tokens = slice program (i + 1) j)
    (left : rest = slice program index j) (closed : Balanced rest) :
    (⟨tokens, rest, 0, true⟩ : Frame).IsBody := by
  have inside := (List.getElem?_eq_some_iff.1 partner.closes).1
  have balanced := partner.inside
  have cursor := (@cursor_of_extent program ⟨tokens, rest, 0, true⟩ index (i + 1) j whole left after
    bound (Nat.le_of_lt inside)).1
  have index_eq : i + 1 + (index - (i + 1)) = index := by omega
  refine ⟨rfl, rfl, by rwa [whole], ?_⟩
  rw [cursor, whole, slice_take (by omega), index_eq]
  rw [left] at closed
  rw [← slice_append (show i + 1 ≤ index by omega) bound] at balanced
  exact balanced.left_of_append closed

theorem stacked (placed : Placed program frames index loops) : Stacked program frames := by
  induction placed with
  | program inside settled same met =>
    have aligned := (Placed.program inside settled same met).aligned
    refine ⟨⟨_, rfl, rfl, rfl⟩, by simp, ?_, List.isChain_singleton _⟩
    intro f listed
    rw [List.mem_singleton] at listed
    rwa [listed]
  | @loop tokens rest i j index outer loops partner after bound whole same closed below ih =>
    have aligned := (Placed.loop partner after bound whole same closed below).aligned
    cases outer with
    | nil => exact absurd rfl below.ne_nil
    | cons top outer =>
      refine ⟨?_, ?_, ?_, ?_⟩
      · rw [List.getLast?_cons_cons]
        exact ih.bottom
      · intro f listed
        rw [List.dropLast_cons_cons, List.mem_cons] at listed
        rcases listed with rfl | listed
        · exact isBody partner after bound whole same closed
        · exact ih.loops f listed
      · intro f listed
        rcases List.mem_cons.1 listed with rfl | listed
        · exact aligned
        · exact ih.cursors f listed
      · exact List.isChain_cons_cons.2 ⟨bodyOf partner whole below, ih.chain⟩

/-- All loops being run lie around the innermost one. -/
theorem encloses (placed : Placed program frames index ((i, j) :: loops)) {k l : Nat}
    (listed : (k, l) ∈ (i, j) :: loops) : k ≤ i ∧ j ≤ l := by
  cases placed with
  | loop partner _ _ _ _ _ below =>
    rcases List.mem_cons.1 listed with innermost | listed
    · cases innermost
      exact ⟨Nat.le_refl _, Nat.le_refl _⟩
    · obtain ⟨around, before, behind⟩ := below.mem_loops_iff.1 listed
      have distinct := around.start_ne_end partner
      refine ⟨Nat.le_of_not_lt fun inside => ?_, by omega⟩
      have closed := partner.nested around inside (by omega)
      omega

theorem length_loops_le (placed : Placed program frames index loops) :
    loops.length ≤ maxNesting program := by
  cases loops with
  | nil => exact Nat.zero_le _
  | cons pair loops =>
    obtain ⟨i, j⟩ := pair
    have innermost := (placed.mem_loops_iff.1 List.mem_cons_self).1
    have listed : nestingOf program (i, j) ∈ (bracketPairs program).map (nestingOf program) :=
      List.mem_map_of_mem (mem_bracketPairs_iff.2 innermost)
    have around : (i, j) :: loops ⊆
        (bracketPairs program).filter fun other => other.1 ≤ i ∧ j ≤ other.2 := by
      rintro ⟨k, l⟩ running
      have partner := (placed.mem_loops_iff.1 running).1
      have outside := placed.encloses running
      simpa [mem_bracketPairs_iff] using ⟨partner, outside⟩
    have counted := placed.nodup_loops.length_le_of_subset around
    rw [← List.countP_eq_length_filter] at counted
    exact List.le_max_of_le' 0 listed counted

end Placed

theorem Reachable.stacked {settings : Settings} {program input : String} {m : Machine}
    (reached : Reachable (Machine.start settings program input) m) :
    m.frames = [] ∨ Stacked (tokenize program) m.frames := by
  cases running : m.frames with
  | nil => exact .inl rfl
  | cons top outer =>
    obtain ⟨_, _, placed⟩ := reached.placed running
    exact .inr placed.stacked

/-- Whatever was called, the frames are a stack of loop bodies on the program, or there are none; and no
more loops are running than lie in one another in the program. -/
theorem frames_stacked {settings : Settings} {program input : String} {m : Machine}
    (loaded : Machine.load settings program input = .ok m) (v : Machine) (reached : Reachable m v) :
    (v.frames = [] ∨ Stacked (tokenize program) v.frames) ∧
      v.depth ≤ maxNesting (tokenize program) := by
  obtain ⟨-, rfl⟩ := load_eq_ok_iff.1 loaded
  refine ⟨reached.stacked, ?_⟩
  cases running : v.frames with
  | nil => simp [depth, running]
  | cons top outer =>
    obtain ⟨index, loops, placed⟩ := reached.placed running
    rw [depth, running, placed.length_eq, Nat.add_sub_cancel]
    exact placed.length_loops_le

/-- Two loops running at once, the inner one in the middle of its body, after a failed step. -/
theorem inner_loop_stacked :
    let m := Machine.start {} "]+[[>x]]" ""
    let v := m.after 5
    Machine.load {} "]+[[>x]]" "" = .ok m ∧ Reachable m v ∧ v.depth = 2 ∧
      Stacked (tokenize "]+[[>x]]") v.frames ∧ v.depth ≤ maxNesting (tokenize "]+[[>x]]") ∧
      maxNesting (tokenize "]+[[>x]]") = 2 := by
  intro m v
  have loaded : Machine.load {} "]+[[>x]]" "" = .ok m := rfl
  have reached : Reachable m v := Reachable.start.step.step.step.step.step
  obtain ⟨stacked, bound⟩ := frames_stacked loaded v reached
  have running : v.depth = 2 := by decide
  rcases stacked with ended | stacked
  · simp [depth, ended] at running
  · exact ⟨loaded, reached, running, stacked, bound, by decide⟩

end TapeMachine

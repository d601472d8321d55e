import TapeMachine.Proofs.CellArithmetic
import TapeMachine.Proofs.FrameStack
import TapeMachine.Proofs.Limit
import TapeMachine.Proofs.TapeView

/-! How large the numbers of a machine get. Cells stay inside their width, the tape grows by at most a
chunk for each counted step, the counter stops at the limit, and no frame meets more stray brackets than
it has tokens. -/
namespace TapeMachine

open Machine

/-- The cell has the width, and its value is one of that width. -/
structure Cell.Fits (width : Nat) (c : Cell) : Prop where
  width_eq : c.width = width
  value_lt : c.value.toNat < 2 ^ width

namespace Cell.Fits

variable {width : Nat} {c : Cell}

theorem blank (width : Nat) : (Cell.blank width).Fits width :=
  ⟨rfl, Nat.two_pow_pos width⟩

theorem increment (fits : c.Fits width) (narrow : width ≤ 32) : c.increment.Fits width := by
  obtain ⟨rfl, inside⟩ := fits
  refine ⟨rfl, ?_⟩
  rw [c.increment_toNat narrow inside]
  exact Nat.mod_lt _ (Nat.two_pow_pos _)

theorem decrement (fits : c.Fits width) (narrow : width ≤ 32) : c.decrement.Fits width := by
  obtain ⟨rfl, inside⟩ := fits
  refine ⟨rfl, ?_⟩
  rw [c.decrement_toNat narrow inside]
  exact Nat.mod_lt _ (Nat.two_pow_pos _)

theorem fill (fits : c.Fits width) (narrow : width ≤ 32) (value : Int64) :
    (c.fill value).Fits width := by
  obtain ⟨rfl, -⟩ := fits
  refine ⟨rfl, ?_⟩
  have filled := c.fill_toNat value narrow
  have bound := Int.emod_lt_of_pos value.toInt (Int.pow_pos (by decide) : (0 : Int) < 2 ^ c.width)
  rw [← filled] at bound
  exact_mod_cast bound

theorem receive (fits : c.Fits width) (narrow : width ≤ 32) (char : Char) :
    (c.receive char).Fits width :=
  fits.fill narrow _

end Cell.Fits

/-- A tape as the settings want it, with all cells of one width and the pointer inside. -/
structure Tape.Fits (settings : Settings) (t : Tape) : Prop where
  width_eq : t.width = settings.cellBits
  chunk_eq : t.chunk = settings.growthChunk
  sound : t.Sound
  cells : ∀ c ∈ t.cells, c.Fits settings.cellBits

namespace Tape.Fits

variable {settings : Settings} {t : Tape}

theorem blank (valid : settings.Valid) :
    (Tape.blank settings.initialCells settings.growthChunk settings.cellBits).Fits settings := by
  refine ⟨rfl, rfl, .blank valid.cells_pos valid.chunk_pos _, fun c listed => ?_⟩
  obtain ⟨-, rfl⟩ := Array.mem_replicate.1 listed
  exact .blank _

theorem current (fits : t.Fits settings) : t.current.Fits settings.cellBits := by
  have inside : t.pointer < t.cells.size := fits.sound.inside
  rw [Tape.current, Array.getD_eq_getD_getElem?, Array.getElem?_eq_getElem inside]
  exact fits.cells _ (Array.getElem_mem inside)

theorem modify {change : Cell → Cell} (fits : t.Fits settings)
    (keeps : ∀ c : Cell, c.Fits settings.cellBits → (change c).Fits settings.cellBits) :
    (t.modify change).Fits settings := by
  refine ⟨fits.width_eq, fits.chunk_eq, fits.sound.modify change, fun c listed => ?_⟩
  obtain ⟨index, here⟩ := Array.mem_iff_getElem?.1 listed
  simp only [Tape.modify, Array.getElem?_modify] at here
  split at here
  · obtain ⟨before, was, rfl⟩ := Option.map_eq_some_iff.1 here
    exact keeps before (fits.cells before (Array.mem_of_getElem? was))
  · exact fits.cells c (Array.mem_of_getElem? here)

theorem blankChunk (fits : t.Fits settings) :
    ∀ c ∈ t.blankChunk, c.Fits settings.cellBits := by
  intro c listed
  obtain ⟨-, rfl⟩ := Array.mem_replicate.1 listed
  rw [fits.width_eq]
  exact .blank _

theorem moveRight (fits : t.Fits settings) : t.moveRight.Fits settings := by
  have sound := fits.sound.moveRight
  unfold Tape.moveRight at sound ⊢
  split
  · rename_i grows
    rw [if_pos grows] at sound
    refine ⟨fits.width_eq, fits.chunk_eq, sound, fun c listed => ?_⟩
    rcases Array.mem_append.1 listed with old | fresh
    · exact fits.cells c old
    · exact fits.blankChunk c fresh
  · rename_i stays
    rw [if_neg stays] at sound
    exact ⟨fits.width_eq, fits.chunk_eq, sound, fits.cells⟩

theorem moveLeft (fits : t.Fits settings) : t.moveLeft.Fits settings := by
  have sound := fits.sound.moveLeft
  unfold Tape.moveLeft at sound ⊢
  split
  · rename_i grows
    rw [if_pos grows] at sound
    refine ⟨fits.width_eq, fits.chunk_eq, sound, fun c listed => ?_⟩
    rcases Array.mem_append.1 listed with fresh | old
    · exact fits.blankChunk c fresh
    · exact fits.cells c old
  · rename_i stays
    rw [if_neg stays] at sound
    exact ⟨fits.width_eq, fits.chunk_eq, sound, fits.cells⟩

theorem size_moveRight_le (fits : t.Fits settings) :
    t.moveRight.size ≤ t.size + settings.growthChunk := by
  rw [moveRight_size, fits.chunk_eq]
  split <;> omega

theorem size_moveLeft_le (fits : t.Fits settings) :
    t.moveLeft.size ≤ t.size + settings.growthChunk := by
  rw [moveLeft_size, fits.chunk_eq]
  split <;> omega

end Tape.Fits

/-- Whatever token is performed, the tape fits as before and is longer by one chunk at most. -/
theorem Store.perform_fits {settings : Settings} {s s' : Store} {token : Token}
    (valid : settings.Valid) (fits : s.tape.Fits settings) (performed : s.perform token = .ok s') :
    s'.tape.Fits settings ∧ s'.tape.size ≤ s.tape.size + settings.growthChunk := by
  have narrow := valid.width_le
  have modified : ∀ change : Cell → Cell,
      (∀ c : Cell, c.Fits settings.cellBits → (change c).Fits settings.cellBits) →
      (s.tape.modify change).Fits settings ∧
        (s.tape.modify change).size ≤ s.tape.size + settings.growthChunk := fun change keeps =>
    ⟨fits.modify keeps, by rw [Tape.modify_size]; omega⟩
  cases token with
  | increment =>
    cases performed
    exact modified _ fun c inside => inside.increment narrow
  | decrement =>
    cases performed
    exact modified _ fun c inside => inside.decrement narrow
  | right =>
    cases performed
    exact ⟨fits.moveRight, fits.size_moveRight_le⟩
  | left =>
    cases performed
    exact ⟨fits.moveLeft, fits.size_moveLeft_le⟩
  | output =>
    cases performed
    exact ⟨fits, Nat.le_add_right _ _⟩
  | input =>
    simp only [Store.perform] at performed
    split at performed
    · simp at performed
    · cases performed
      exact modified _ fun c inside => inside.receive narrow _
  | loopStart | loopEnd | undefined => simp [Store.perform] at performed

/-- The balance of a program frame has fallen by no more than the tokens it has gone past. -/
def Frame.Met (f : Frame) : Prop :=
  f.isLoop = false → (f.rest.length : Int) ≤ f.tokens.length + f.balance

section Met

variable {tokens rest rest' : List Token} {token : Token} {balance : Int} {isLoop : Bool}

theorem Frame.Met.shorter (met : Frame.Met ⟨tokens, rest, balance, isLoop⟩)
    (shorter : rest'.length ≤ rest.length) : Frame.Met ⟨tokens, rest', balance, isLoop⟩ := by
  intro program
  have room : (rest.length : Int) ≤ tokens.length + balance := met program
  change (rest'.length : Int) ≤ tokens.length + balance
  omega

theorem Frame.Met.tail (met : Frame.Met ⟨tokens, token :: rest, balance, isLoop⟩) :
    Frame.Met ⟨tokens, rest, balance, isLoop⟩ :=
  met.shorter (Nat.le_succ _)

theorem Frame.Met.fall (met : Frame.Met ⟨tokens, token :: rest, balance, isLoop⟩) :
    Frame.Met ⟨tokens, rest, balance - 1, isLoop⟩ := by
  intro program
  have room : ((rest.length + 1 : Nat) : Int) ≤ tokens.length + balance := met program
  change (rest.length : Int) ≤ tokens.length + (balance - 1)
  omega

end Met

/-- How far the numbers of a machine have come. -/
structure Machine.Bounded (settings : Settings) (m : Machine) : Prop where
  tape : m.tape.Fits settings
  size_le : m.tape.size ≤ settings.initialCells + settings.growthChunk * m.steps
  stepLimit_eq : m.stepLimit = settings.stepLimit
  allowed : Allows m.stepLimit m.steps
  met : ∀ f ∈ m.frames, f.Met

namespace Machine.Bounded

variable {settings : Settings} {m : Machine} {top : Frame} {outer frames : List Frame}

theorem start (valid : settings.Valid) (program input : String) :
    (Machine.start settings program input).Bounded settings where
  tape := .blank valid
  size_le := by simp [Machine.start, Tape.blank, Tape.size]
  stepLimit_eq := rfl
  allowed := fun _ _ => Nat.zero_le _
  met := by simp [Machine.start, Frame.Met, Frame.program]

theorem advance {store : Store} (bounded : m.Bounded settings) (budget : m.HasBudget)
    (fits : store.tape.Fits settings) (size : store.tape.size ≤ m.tape.size + settings.growthChunk)
    (met : ∀ f ∈ frames, f.Met) : (m.advance frames store).Bounded settings where
  tape := fits
  size_le := by
    have before := bounded.size_le
    rw [advance_tape, advance_steps, Nat.mul_succ]
    omega
  stepLimit_eq := bounded.stepLimit_eq
  allowed := budget
  met := met

/-- Where only frames change, a counted step has room for one chunk more than it needs. -/
theorem keep (bounded : m.Bounded settings) (budget : m.HasBudget) (met : ∀ f ∈ frames, f.Met) :
    (m.advance frames m.store).Bounded settings :=
  bounded.advance budget bounded.tape (Nat.le_add_right _ _) met

theorem met_cons (bounded : m.Bounded settings) (running : m.frames = top :: outer) :
    top.Met ∧ ∀ f ∈ outer, f.Met := by
  have met := bounded.met
  rw [running] at met
  exact List.forall_mem_cons.1 met

theorem transition {taken : Step} (valid : settings.Valid) (bounded : m.Bounded settings)
    (transition : Transition m taken) : taken.next.Bounded settings := by
  cases transition with
  | idle | exhausted => exact bounded
  | finish running =>
    exact ⟨bounded.tape, bounded.size_le, bounded.stepLimit_eq, bounded.allowed,
      (bounded.met_cons running).2⟩
  | perform running budget _ performed =>
    obtain ⟨met, below⟩ := bounded.met_cons running
    obtain ⟨fits, size⟩ := Store.perform_fits valid bounded.tape performed
    exact bounded.advance budget fits size (List.forall_mem_cons.2 ⟨met.tail, below⟩)
  | refuse running budget | unclosed running budget =>
    obtain ⟨met, below⟩ := bounded.met_cons running
    exact bounded.keep budget (List.forall_mem_cons.2 ⟨met.tail, below⟩)
  | stray running budget =>
    obtain ⟨met, below⟩ := bounded.met_cons running
    exact bounded.keep budget (List.forall_mem_cons.2 ⟨met.fall, below⟩)
  | skip running budget found =>
    obtain ⟨met, below⟩ := bounded.met_cons running
    have later := met.tail.shorter (length_after_loopBody found)
    exact bounded.keep budget (List.forall_mem_cons.2 ⟨later, below⟩)
  | enter running budget found =>
    obtain ⟨met, below⟩ := bounded.met_cons running
    have later := met.tail.shorter (length_after_loopBody found)
    exact bounded.keep budget (List.forall_mem_cons.2
      ⟨by simp [Frame.Met, Frame.loop], List.forall_mem_cons.2 ⟨later, below⟩⟩)
  | leave running budget => exact bounded.keep budget (bounded.met_cons running).2
  | again running budget =>
    obtain ⟨-, below⟩ := bounded.met_cons running
    exact bounded.keep budget (List.forall_mem_cons.2 ⟨by simp [Frame.Met], below⟩)

end Machine.Bounded

theorem Reachable.bounded {settings : Settings} {program input : String} {m : Machine}
    (valid : settings.Valid) (reached : Reachable (Machine.start settings program input) m) :
    m.Bounded settings := by
  refine @Reachable.invariant _ m (Machine.Bounded settings) ?_ ?_ ?_ ?_ reached
  · exact .start valid program input
  · exact fun m bounded => bounded.transition valid m.transition
  · exact fun m bounded => ⟨bounded.tape, bounded.size_le, bounded.stepLimit_eq, bounded.allowed,
      bounded.met⟩
  · exact fun m bounded => ⟨bounded.tape, bounded.size_le, bounded.stepLimit_eq, bounded.allowed,
      fun _ listed => absurd listed List.not_mem_nil⟩

/-! ## The length of a program -/

/-- Every token of a text takes at least one byte of it. -/
theorem length_tokenize_le (text : String) : (tokenize text).length ≤ text.utf8ByteSize := by
  have bytes : ∀ chars : List Char, chars.length ≤ (String.ofList chars).utf8ByteSize := by
    intro chars
    induction chars with
    | nil => exact Nat.zero_le _
    | cons char chars ih =>
      have one := char.utf8Size_pos
      rw [String.ofList_cons, String.utf8ByteSize_append, String.utf8ByteSize_singleton,
        List.length_cons]
      omega
  have kept := List.length_filter_le (fun c => !isBlank c) text.toList
  have whole := bytes text.toList
  rw [String.ofList_toList] at whole
  rw [tokenize, List.length_map]
  omega

namespace Stacked

variable {program rest : List Token} {token : Token} {top : Frame} {outer : List Frame}

/-- Each frame holds fewer tokens than the one below it. -/
theorem length_le (stacked : Stacked program (top :: outer)) :
    top.tokens.length + outer.length ≤ program.length := by
  induction outer generalizing top with
  | nil =>
    obtain ⟨base, last, rfl, -⟩ := stacked.bottom
    obtain rfl : top = base := by simpa using last
    exact Nat.le_refl _
  | cons below outer ih =>
    obtain ⟨⟨i, partner, body⟩, chain⟩ := List.isChain_cons_cons.1 stacked.chain
    obtain ⟨base, last, whole, plain⟩ := stacked.bottom
    rw [List.getLast?_cons_cons] at last
    have rest := ih ⟨⟨base, last, whole, plain⟩,
      fun f listed => stacked.loops f (List.mem_cons_of_mem top listed),
      fun f listed => stacked.cursors f (List.mem_cons_of_mem top listed), chain⟩
    have ordered := partner.ordered
    have inside := (List.getElem?_eq_some_iff.1 partner.closes).1
    rw [body, length_slice, List.length_cons]
    omega

theorem balance_eq_zero (stacked : Stacked program (top :: outer)) (loop : top.isLoop = true) :
    top.balance = 0 := by
  cases outer with
  | nil =>
    obtain ⟨base, last, -, plain⟩ := stacked.bottom
    obtain rfl : top = base := by simpa using last
    simp [plain] at loop
  | cons below outer => exact (stacked.loops top List.mem_cons_self).balance

/-- A frame with a token left to run has room for one more fall of its balance. -/
theorem balance_ge (stacked : Stacked program (top :: outer)) (met : top.Met)
    (left : top.rest = token :: rest) : -(program.length : Int) ≤ top.balance - 1 := by
  have held := stacked.length_le
  cases loop : top.isLoop with
  | false =>
    have room := met loop
    rw [left, List.length_cons] at room
    omega
  | true =>
    have aligned := stacked.cursors top List.mem_cons_self
    have whole := congrArg List.length aligned.rest_eq
    rw [left, List.length_cons, List.length_drop] at whole
    rw [stacked.balance_eq_zero loop]
    omega

end Stacked

end TapeMachine

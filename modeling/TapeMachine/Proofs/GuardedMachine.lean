import TapeMachine.Machine.Guarded
import TapeMachine.Proofs.GuardedMemory

/-! What the guards of a machine let through. Where calls can lead, the guards of the scan, of the cursors and
of the balance hold whatever the program is. So a step is stopped only by the tape or by the counter, and
exactly if the machine that it would lead to does not fit into memory and words. -/
namespace TapeMachine

open Machine

/-! ## The end of a loop -/

section Scan

variable {indexBits : Nat} {tokens : List Token}

theorem endOffset?_inside {token : Token} {inner next offset : Nat} (rest : List Token)
    (inside : token.open? inner = some next) (opened : inner + 2 < 2 ^ indexBits)
    (passed : offset + 1 < 2 ^ indexBits) :
    endOffset? indexBits (inner + 1) offset (token :: rest) =
      endOffset? indexBits (next + 1) (offset + 1) rest := by
  have further : sum? indexBits offset 1 = some (offset + 1) := sum?_eq passed
  cases token with
  | loopStart =>
    have deeper : sum? indexBits (inner + 1) 1 = some (inner + 2) := sum?_eq opened
    cases inside
    simp [endOffset?, further, deeper]
  | loopEnd =>
    cases inner with
    | zero => simp [Token.open?] at inside
    | succ inner =>
      have left : difference? (inner + 2) 1 = some (inner + 1) := difference?_eq (by omega)
      cases inside
      simp [endOffset?, further, left]
  | _ =>
    cases inside
    simp [endOffset?, further]

/-- The scan that counts finds the place at which the scan that splits stops. -/
theorem endOffset?_eq {inner offset : Nat} (opened : inner + 1 + tokens.length < 2 ^ indexBits)
    (passed : offset + tokens.length < 2 ^ indexBits) :
    endOffset? indexBits (inner + 1) offset tokens =
      some ((splitAtPartner inner tokens).map fun (body, _) => offset + body.length) := by
  induction tokens generalizing inner offset with
  | nil => rfl
  | cons token rest ih =>
    rw [List.length_cons] at opened passed
    cases stepped : token.open? inner with
    | none =>
      obtain ⟨rfl, rfl⟩ := Token.open?_eq_none_iff.1 stepped
      rfl
    | some next =>
      -- Each token passed uses up one of the room that both counters have.
      have bound := Token.open?_le stepped
      have found := @ih next (offset + 1) (by omega) (by omega)
      rw [endOffset?_inside rest stepped (by omega) (by omega), found,
        splitAtPartner_inside rest stepped]
      simp [Function.comp_def, Nat.add_comm, Nat.add_left_comm]

end Scan

/-! ## Frames by their cursors -/

namespace Frame

namespace Aligned

variable {f : Frame} {indexBits : Nat} {body after : List Token}

/-- The scan by indices finds the loop that the scan of the rest finds. -/
theorem loopBodyAt?_eq (aligned : f.Aligned) (words : f.tokens.length + 1 < 2 ^ indexBits) :
    loopBodyAt? indexBits f.tokens f.cursor =
      some ((loopBody f.rest).map fun (body, after) => (body, f.tokens.length - after.length)) := by
  have cursor := aligned.cursor_le
  have size : (f.tokens.drop f.cursor).length = f.tokens.length - f.cursor := List.length_drop
  have scanned := @endOffset?_eq indexBits (f.tokens.drop f.cursor) 0 0 (by omega) (by omega)
  rw [aligned.rest_eq, loopBody]
  cases found : splitAtPartner 0 (f.tokens.drop f.cursor) with
  | none =>
    rw [found] at scanned
    simp [loopBodyAt?, guard, cursor, scanned]
  | some split =>
    obtain ⟨body, after⟩ := split
    rw [found] at scanned
    have parts := eq_of_splitAtPartner found
    have total := congrArg List.length parts
    rw [size, List.length_append, List.length_cons] at total
    have stop : sum? indexBits f.cursor body.length = some (f.cursor + body.length) :=
      sum?_eq (by omega)
    have behind : sum? indexBits (f.cursor + body.length) 1 = some (f.tokens.length - after.length) := by
      rw [sum?_eq (by omega)]
      congr 1
      omega
    have inside : f.cursor + body.length ≤ f.tokens.length := by omega
    have whole : slice f.tokens f.cursor (f.cursor + body.length) = body := by
      rw [slice, Nat.add_sub_cancel_left, parts, List.take_left]
    simp [loopBodyAt?, guard, cursor, scanned, stop, behind, inside, whole]

theorem behind (aligned : f.Aligned) (found : loopBody f.rest = some (body, after)) :
    f.seek (f.tokens.length - after.length) = { f with rest := after } := by
  have suffix : after <:+ f.tokens := by
    obtain ⟨split, -⟩ := loopBody_eq_some_iff.1 found
    have tail : after <:+ f.rest := ⟨body ++ [.loopEnd], by rw [split]; simp⟩
    rw [aligned.rest_eq] at tail
    exact tail.trans (List.drop_suffix _ _)
  rw [Frame.seek, ← List.suffix_iff_eq_drop.1 suffix]

end Aligned

end Frame

/-! ## Steps -/

/-- What grows while a machine works has not grown too large: the tape is in memory, and the counter is a
word. -/
structure Machine.Contained (indexBits : Nat) (m : Machine) : Prop where
  tape : InMemory indexBits m.tape.size
  counter : m.steps < 2 ^ 64

instance (indexBits : Nat) (m : Machine) : Decidable (m.Contained indexBits) :=
  decidable_of_iff (InMemory indexBits m.tape.size ∧ m.steps < 2 ^ 64)
    ⟨fun ⟨tape, counter⟩ => ⟨tape, counter⟩, fun ⟨tape, counter⟩ => ⟨tape, counter⟩⟩

/-- The step, if the machine it leads to is contained. -/
def Step.contained? (indexBits : Nat) (taken : Step) : Option Step :=
  if taken.next.Contained indexBits then some taken else none

namespace Machine

variable {indexBits : Nat} {settings : Settings} {m w : Machine} {top : Frame} {outer : List Frame}

theorem Contained.mono (contained : w.Contained indexBits) (size : m.tape.size ≤ w.tape.size)
    (steps : m.steps ≤ w.steps) : m.Contained indexBits :=
  ⟨contained.tape.mono size, Nat.lt_of_le_of_lt steps contained.counter⟩

theorem contained?_eq {taken : Step} (contained : taken.next.Contained indexBits) :
    taken.contained? indexBits = some taken :=
  if_pos contained

theorem enterLoop_next (m : Machine) (top : Frame) (outer : List Frame) :
    (m.enterLoop top outer).next.tape = m.tape ∧ (m.enterLoop top outer).next.steps = m.steps := by
  unfold enterLoop
  split
  · exact ⟨rfl, rfl⟩
  · dsimp only
    split <;> exact ⟨rfl, rfl⟩

theorem retest_next (m : Machine) (top : Frame) (outer : List Frame) :
    (m.retest top outer).next.tape = m.tape ∧ (m.retest top outer).next.steps = m.steps := by
  unfold retest
  split <;> exact ⟨rfl, rfl⟩

theorem dispatch_steps (m : Machine) (token : Token) (top : Frame) (outer : List Frame) :
    (m.dispatch token top outer).next.steps = m.steps := by
  cases token with
  | input =>
    rw [dispatch]
    cases m.input <;> rfl
  | loopStart => exact (m.enterLoop_next top outer).2
  | _ => rfl

theorem spend?_eq {act? : Machine → Option Step} {act : Machine → Step}
    (contained : m.Contained indexBits)
    (counts : (act { m with steps := m.steps + 1 }).next.steps = m.steps + 1)
    (acts : m.HasBudget → m.steps + 1 < 2 ^ 64 → act? { m with steps := m.steps + 1 } =
      (act { m with steps := m.steps + 1 }).contained? indexBits) :
    m.spend? act? = (m.spend act).contained? indexBits := by
  rcases m.budget_or_exhausted with budget | ⟨limit, limited, spent⟩
  · have counted : m.spend? act? =
        (sum? 64 m.steps 1).bind fun steps => act? { m with steps } := by
      rw [spend?]
      split
      · rename_i limit limited
        exact if_neg (Nat.not_le_of_lt (budget limit limited))
      · rfl
    rw [counted, spend_of_budget budget]
    by_cases room : m.steps + 1 < 2 ^ 64
    · rw [sum?_eq room, ← acts budget room]
      rfl
    · have beyond : ¬(act { m with steps := m.steps + 1 }).next.Contained indexBits := by
        rintro ⟨-, counter⟩
        rw [counts] at counter
        exact room counter
      rw [Step.contained?, if_neg beyond, sum?_eq_none room]
      rfl
  · rw [spend_of_exhausted limited spent, contained?_eq contained]
    simp [spend?, limited, spent, Step.fail]

theorem enterLoop?_eq (inside : m.tape.pointer < m.tape.size) (aligned : top.Aligned)
    (words : top.tokens.length + outer.length + 1 < 2 ^ indexBits) :
    m.enterLoop? indexBits top outer = some (m.enterLoop top outer) := by
  have current := Tape.current?_eq inside
  have deeper : sum? indexBits outer.length 1 = some (outer.length + 1) := sum?_eq (by omega)
  have scanned := @Frame.Aligned.loopBodyAt?_eq top indexBits aligned (by omega)
  cases found : loopBody top.rest with
  | none =>
    rw [found] at scanned
    simp [enterLoop?, enterLoop, scanned, found]
  | some split =>
    obtain ⟨body, after⟩ := split
    rw [found] at scanned
    have next := aligned.behind found
    by_cases zero : m.tape.current.value = 0
    · simp [enterLoop?, enterLoop, scanned, found, next, current, zero]
    · simp [enterLoop?, enterLoop, scanned, found, next, current, zero, depth, deeper]

theorem strayLoopEnd?_eq (low : -2 ^ (indexBits - 1) ≤ top.balance - 1) :
    m.strayLoopEnd? indexBits top outer = some (m.strayLoopEnd top outer) := by
  have room : -((1 <<< (indexBits - 1) : Nat) : Int) ≤ top.balance - 1 := by
    rw [Nat.one_shiftLeft]
    exact_mod_cast low
  rw [strayLoopEnd?, guard, if_pos room]
  rfl

theorem retest?_eq (inside : m.tape.pointer < m.tape.size) :
    m.retest? top outer = some (m.retest top outer) := by
  rw [retest?, Tape.current?_eq inside, retest]
  by_cases zero : m.tape.current.value = 0
  · simp [zero]
  · simp [zero, Frame.seek, Frame.restart]

/-- Only a move can be stopped, by the memory that the longer tape needs. -/
theorem dispatch?_eq (valid : settings.Valid) (fits : m.tape.Fits settings)
    (contained : m.Contained indexBits) (aligned : top.Aligned)
    (words : top.tokens.length + outer.length + 1 < 2 ^ indexBits)
    (low : -2 ^ (indexBits - 1) ≤ top.balance - 1) (token : Token) :
    m.dispatch? indexBits token top outer =
      (m.dispatch token top outer).contained? indexBits := by
  have narrow := valid.width_le
  have inside := fits.sound.inside
  have moved : ∀ t : Tape, { m with frames := top :: outer, tape := t }.Contained indexBits ↔
      InMemory indexBits t.size := fun t =>
    ⟨fun held => held.tape, fun held => ⟨held, contained.counter⟩⟩
  have modified : ∀ change : Cell → Cell, InMemory indexBits (m.tape.modify change).size := by
    intro change
    rw [Tape.modify_size]
    exact contained.tape
  cases token with
  | increment =>
    have changed := Tape.modify?_eq inside (Cell.increment?_eq fits.current narrow)
    rw [contained?_eq ((moved _).2 (modified _))]
    simp [dispatch?, dispatch, changed]
  | decrement =>
    have changed := Tape.modify?_eq inside (Cell.decrement?_eq fits.current narrow)
    rw [contained?_eq ((moved _).2 (modified _))]
    simp [dispatch?, dispatch, changed]
  | right =>
    rw [dispatch?, Tape.moveRight?_eq valid fits contained.tape, Step.contained?]
    simp only [dispatch, Step.proceed, moved]
    split <;> rfl
  | left =>
    rw [dispatch?, Tape.moveLeft?_eq valid fits contained.tape, Step.contained?]
    simp only [dispatch, Step.proceed, moved]
    split <;> rfl
  | input =>
    cases unread : m.input with
    | nil =>
      have kept : (m.dispatch .input top outer).next.Contained indexBits := by
        rw [dispatch, unread]
        exact ⟨contained.tape, contained.counter⟩
      rw [contained?_eq kept]
      simp [dispatch?, dispatch, unread]
    | cons char input =>
      have changed : m.tape.modify? (·.receive? char) = some (m.tape.modify (·.receive char)) :=
        Tape.modify?_eq inside (Cell.fill?_eq fits.current narrow _)
      have kept : (m.dispatch .input top outer).next.Contained indexBits := by
        rw [dispatch, unread]
        exact ⟨modified _, contained.counter⟩
      rw [contained?_eq kept]
      simp [dispatch?, dispatch, unread, changed]
  | output =>
    have current := Tape.current?_eq inside
    rw [contained?_eq ⟨contained.tape, contained.counter⟩]
    simp [dispatch?, dispatch, current]
  | loopStart =>
    obtain ⟨tape, steps⟩ := m.enterLoop_next top outer
    have kept : (m.dispatch .loopStart top outer).next.Contained indexBits :=
      contained.mono (Nat.le_of_eq (congrArg Tape.size tape)) (Nat.le_of_eq steps)
    rw [contained?_eq kept]
    exact enterLoop?_eq inside aligned words
  | loopEnd =>
    rw [contained?_eq ⟨contained.tape, contained.counter⟩]
    exact strayLoopEnd?_eq low
  | undefined char =>
    rw [contained?_eq ⟨contained.tape, contained.counter⟩]
    rfl

variable {program : List Token}

/-- The cursor moves past the token, which is then performed. -/
theorem dispatch?_next {token : Token} {rest : List Token} (valid : settings.Valid)
    (bounded : m.Bounded settings) (running : m.frames = top :: outer)
    (stacked : Stacked program (top :: outer)) (left : top.rest = token :: rest)
    (short : program.length < 2 ^ (indexBits - 1)) (held : InMemory indexBits m.tape.size)
    (counted : m.steps + 1 < 2 ^ 64) :
    (do
      let cursor ← sum? indexBits top.cursor 1
      { m with steps := m.steps + 1 }.dispatch? indexBits token (top.seek cursor) outer) =
        ({ m with steps := m.steps + 1 }.dispatch token { top with rest } outer).contained?
          indexBits := by
  have longest := stacked.length_le
  obtain ⟨before, next⟩ := (stacked.cursors top List.mem_cons_self).next left
  have words : program.length + 1 < 2 ^ indexBits := two_pow_room (by omega) short
  have further : sum? indexBits top.cursor 1 = some (top.cursor + 1) := sum?_eq (by omega)
  have low := stacked.balance_ge (bounded.met_cons running).1 left
  have signed : (program.length : Int) < 2 ^ (indexBits - 1) := by exact_mod_cast short
  have contained : { m with steps := m.steps + 1 }.Contained indexBits := ⟨held, counted⟩
  rw [← next]
  simp only [further, Option.bind_eq_bind, Option.bind_some]
  refine dispatch?_eq valid ?_ contained (Frame.aligned_seek before) ?_ ?_ token
  · exact bounded.tape
  · change top.tokens.length + outer.length + 1 < _
    omega
  · change _ ≤ top.balance - 1
    omega

/-- A step from a contained machine is stopped exactly if the machine it leads to is not contained. -/
theorem step?_eq (valid : settings.Valid) (bounded : m.Bounded settings)
    (stacked : m.frames = [] ∨ Stacked program m.frames)
    (short : program.length < 2 ^ (indexBits - 1)) (contained : m.Contained indexBits) :
    m.step? indexBits = m.step.contained? indexBits := by
  cases running : m.frames with
  | nil =>
    have stays : m.step.next.Contained indexBits := by
      rw [step, running]
      exact contained
    rw [contained?_eq stays]
    simp [step?, step, running]
  | cons top outer =>
    rw [running] at stacked
    have stacked := stacked.resolve_left (List.cons_ne_nil _ _)
    have here := (stacked.cursors top List.mem_cons_self).getElem?
    rw [step?, step, running]
    cases left : top.rest with
    | nil =>
      rw [left, List.head?_nil] at here
      cases loop : top.isLoop with
      | false =>
        simp only [here, loop, left]
        let taken : Step := .proceed { m with frames := outer } none
        have next : taken.next.Contained indexBits := ⟨contained.tape, contained.counter⟩
        exact (contained?_eq next).symm
      | true =>
        simp only [here, loop, left]
        obtain ⟨tape, steps⟩ := { m with steps := m.steps + 1 }.retest_next top outer
        refine spend?_eq contained steps fun _ counted => ?_
        rw [contained?_eq ⟨(congrArg Tape.size tape) ▸ contained.tape, steps ▸ counted⟩]
        exact retest?_eq bounded.tape.sound.inside
    | cons token rest =>
      rw [left, List.head?_cons] at here
      simp only [here, left]
      refine spend?_eq contained (dispatch_steps ..) fun _ counted => ?_
      exact dispatch?_next valid bounded running stacked left short contained.tape counted

-- Ten cells are numbered up to nine.
example : step? 64 { start {} "+" "" with tape := { Tape.blank 10 5 8 with pointer := 10 } } = none := by
  decide

end Machine

end TapeMachine

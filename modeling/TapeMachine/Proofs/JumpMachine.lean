import TapeMachine.Proofs.BracketTable
import TapeMachine.Proofs.History
import TapeMachine.Proofs.Placement

/-! A machine with one counter into its program and the table of all pairs of brackets, made once. Call
by call it answers as the machine with frames does, failed steps included. -/
namespace TapeMachine

structure JumpMachine where
  tokens : List Token
  pairs : List (Nat × Nat)
  pc : Nat
  store : Store
  steps : Nat
  stepLimit : Option UInt64

namespace JumpMachine

def start (settings : Settings) (program input : String) : JumpMachine where
  tokens := tokenize program
  pairs := bracketPairs (tokenize program)
  pc := 0
  store := .fresh settings input
  steps := 0
  stepLimit := settings.stepLimit

def exhausted? (c : JumpMachine) : Option UInt64 :=
  c.stepLimit.filter fun limit => limit.toNat ≤ c.steps

def goTo (c : JumpMachine) (pc : Nat) (store : Store) : JumpMachine :=
  { c with pc, store, steps := c.steps + 1 }

def dispatch (c : JumpMachine) : Token → Except Fault Bool × JumpMachine
  | .loopStart =>
    match closing? c.pairs c.pc with
    | none => (.error .invalidSyntax, c.goTo (c.pc + 1) c.store)
    | some j =>
      (.ok true, c.goTo (if c.store.tape.current.value = 0 then j + 1 else c.pc + 1) c.store)
  | .loopEnd =>
    match opening? c.pairs c.pc with
    | none => (.error .invalidSyntax, c.goTo (c.pc + 1) c.store)
    | some i =>
      (.ok true, c.goTo (if c.store.tape.current.value = 0 then c.pc + 1 else i + 1) c.store)
  | token =>
    match c.store.perform token with
    | .ok store => (.ok true, c.goTo (c.pc + 1) store)
    | .error fault => (.error fault, c.goTo (c.pc + 1) c.store)

def step (c : JumpMachine) : Except Fault Bool × JumpMachine :=
  match c.tokens[c.pc]?, c.exhausted? with
  | none, _ => (.ok false, c)
  | some _, some limit => (.error (.stepLimitExceeded limit), c)
  | some token, none => c.dispatch token

def after (c : JumpMachine) : Nat → JumpMachine
  | 0 => c
  | n + 1 => (c.after n).step.2

theorem dispatch_plain (c : JumpMachine) {token : Token} (plain : token.isBracket = false) :
    c.dispatch token =
      match c.store.perform token with
      | .ok store => (.ok true, c.goTo (c.pc + 1) store)
      | .error fault => (.error fault, c.goTo (c.pc + 1) c.store) := by
  cases token with
  | loopStart | loopEnd => simp [Token.isBracket] at plain
  | _ => rfl

theorem dispatch_program (c : JumpMachine) (token : Token) :
    (c.dispatch token).2.tokens = c.tokens ∧ (c.dispatch token).2.pairs = c.pairs := by
  unfold dispatch
  split <;> split <;> exact ⟨rfl, rfl⟩

theorem step_program (c : JumpMachine) :
    c.step.2.tokens = c.tokens ∧ c.step.2.pairs = c.pairs := by
  unfold step
  split
  · exact ⟨rfl, rfl⟩
  · exact ⟨rfl, rfl⟩
  · exact c.dispatch_program _

theorem after_program (c : JumpMachine) (n : Nat) :
    (c.after n).tokens = c.tokens ∧ (c.after n).pairs = c.pairs := by
  induction n with
  | zero => exact ⟨rfl, rfl⟩
  | succ n ih =>
    obtain ⟨tokens, pairs⟩ := (c.after n).step_program
    exact ⟨tokens.trans ih.1, pairs.trans ih.2⟩

end JumpMachine

open Machine

/-- The two machines stand at the same place of the same program, with the same store. -/
structure Tracks (m : Machine) (c : JumpMachine) : Prop where
  table : c.pairs = bracketPairs c.tokens
  store : c.store = m.store
  steps : c.steps = m.steps
  stepLimit : c.stepLimit = m.stepLimit
  place : (∃ loops, Placed c.tokens m.frames c.pc loops) ∨ m.frames = [] ∧ c.pc = c.tokens.length

namespace Tracks

variable {m : Machine} {c : JumpMachine} {frames : List Frame} {loops : List (Nat × Nat)}
  {token : Token} {i j pc : Nat}

theorem start (settings : Settings) (program input : String) :
    Tracks (Machine.start settings program input) (JumpMachine.start settings program input) :=
  ⟨rfl, rfl, rfl, rfl, .inl ⟨[], .start⟩⟩

theorem placed {top : Frame} {outer : List Frame} (tracks : Tracks m c)
    (running : m.frames = top :: outer) :
    ∃ loops, Placed c.tokens (top :: outer) c.pc loops := by
  rcases tracks.place with ⟨loops, placed⟩ | ⟨ended, -⟩
  · rw [running] at placed
    exact ⟨loops, placed⟩
  · simp [ended] at running

theorem goTo (tracks : Tracks m c) (store : Store) (placed : Placed c.tokens frames pc loops) :
    Tracks (m.advance frames store) (c.goTo pc store) :=
  ⟨tracks.table, rfl, congrArg (· + 1) tracks.steps, tracks.stepLimit, .inl ⟨loops, placed⟩⟩

theorem exhausted?_eq_none (tracks : Tracks m c) (budget : m.HasBudget) : c.exhausted? = none := by
  rw [JumpMachine.exhausted?, tracks.stepLimit, tracks.steps, Option.filter_eq_none_iff]
  intro limit limited
  have room := budget limit limited
  simp only [decide_eq_true_eq]
  omega

theorem step_exhausted {limit : UInt64} (tracks : Tracks m c) (here : c.tokens[c.pc]? = some token)
    (limited : m.stepLimit = some limit) (spent : limit.toNat ≤ m.steps) :
    c.step = (.error (.stepLimitExceeded limit), c) := by
  have exhausted : c.exhausted? = some limit := by
    simp [JumpMachine.exhausted?, tracks.stepLimit, tracks.steps, limited, spent]
  rw [JumpMachine.step, here, exhausted]

theorem step_at_end (atEnd : c.pc = c.tokens.length) : c.step = (.ok false, c) := by
  have none : c.tokens[c.pc]? = none := by simp [atEnd]
  rw [JumpMachine.step, none]

theorem step_of_token (tracks : Tracks m c) (budget : m.HasBudget)
    (here : c.tokens[c.pc]? = some token) : c.step = c.dispatch token := by
  rw [JumpMachine.step, here, tracks.exhausted?_eq_none budget]

theorem step_plain (tracks : Tracks m c) (budget : m.HasBudget)
    (here : c.tokens[c.pc]? = some token) (plain : token.isBracket = false) :
    c.step =
      match m.store.perform token with
      | .ok store => (.ok true, c.goTo (c.pc + 1) store)
      | .error fault => (.error fault, c.goTo (c.pc + 1) m.store) := by
  rw [tracks.step_of_token budget here, c.dispatch_plain plain, tracks.store]

theorem step_loopStart (tracks : Tracks m c) (budget : m.HasBudget)
    (partner : Partner c.tokens c.pc j) :
    c.step =
      (.ok true, c.goTo (if m.tape.current.value = 0 then j + 1 else c.pc + 1) m.store) := by
  have listed : closing? c.pairs c.pc = some j := by
    rw [tracks.table]
    exact closing?_eq_some_iff.2 partner
  rw [tracks.step_of_token budget partner.opens, JumpMachine.dispatch, listed, tracks.store]
  rfl

theorem step_loopEnd (tracks : Tracks m c) (budget : m.HasBudget)
    (partner : Partner c.tokens i c.pc) :
    c.step =
      (.ok true, c.goTo (if m.tape.current.value = 0 then c.pc + 1 else i + 1) m.store) := by
  have listed : opening? c.pairs c.pc = some i := by
    rw [tracks.table]
    exact opening?_eq_some_iff.2 partner
  rw [tracks.step_of_token budget partner.closes, JumpMachine.dispatch, listed, tracks.store]
  rfl

theorem step_unmatched (tracks : Tracks m c) (budget : m.HasBudget)
    (here : c.tokens[c.pc]? = some token) (bracket : token.isBracket = true)
    (lone : Lone c.tokens c.pc) :
    c.step = (.error .invalidSyntax, c.goTo (c.pc + 1) m.store) := by
  have unopened : closing? c.pairs c.pc = none := by
    rw [tracks.table]
    exact Option.eq_none_iff_forall_ne_some.2 fun l found => (lone l).1 (closing?_eq_some_iff.1 found)
  have unclosed : opening? c.pairs c.pc = none := by
    rw [tracks.table]
    exact Option.eq_none_iff_forall_ne_some.2 fun l found => (lone l).2 (opening?_eq_some_iff.1 found)
  rw [tracks.step_of_token budget here]
  rcases Token.isBracket_cases bracket with rfl | rfl
  · rw [JumpMachine.dispatch, unopened, tracks.store]
  · rw [JumpMachine.dispatch, unclosed, tracks.store]

theorem busy (tracks : Tracks m c) (busy : m.Busy) : ∃ token, c.tokens[c.pc]? = some token := by
  obtain ⟨tokens, rest, balance, isLoop, outer, frames, more⟩ := busy
  obtain ⟨loops, placed⟩ := tracks.placed frames
  cases rest with
  | cons token rest => exact ⟨token, placed.here⟩
  | nil =>
    rw [more rfl] at placed
    obtain ⟨i, _, partner, _⟩ := placed.loop_end
    exact ⟨_, partner.closes⟩

/-- Whatever the machine with frames does, the counter does too. -/
theorem of_transition {taken : Step} (tracks : Tracks m c) (transition : Transition m taken) :
    c.step.1 = taken.answer ∧ Tracks taken.next c.step.2 := by
  cases transition with
  | idle ended =>
    rcases tracks.place with ⟨loops, placed⟩ | ⟨-, atEnd⟩
    · exact absurd ended placed.ne_nil
    · rw [step_at_end atEnd]
      exact ⟨rfl, tracks⟩
  | finish frames =>
    obtain ⟨loops, placed⟩ := tracks.placed frames
    obtain ⟨rfl, atEnd⟩ := placed.program_end
    rw [step_at_end atEnd]
    exact ⟨rfl, tracks.table, tracks.store, tracks.steps, tracks.stepLimit, .inr ⟨rfl, atEnd⟩⟩
  | exhausted busy limited spent =>
    obtain ⟨token, here⟩ := tracks.busy busy
    rw [tracks.step_exhausted here limited spent]
    exact ⟨rfl, tracks⟩
  | perform frames budget plain performed =>
    obtain ⟨loops, placed⟩ := tracks.placed frames
    rw [tracks.step_plain budget placed.here plain, performed]
    exact ⟨rfl, tracks.goTo _ (placed.plain plain)⟩
  | refuse frames budget plain refused =>
    obtain ⟨loops, placed⟩ := tracks.placed frames
    rw [tracks.step_plain budget placed.here plain, refused]
    exact ⟨rfl, tracks.goTo _ (placed.plain plain)⟩
  | skip frames budget found zero =>
    obtain ⟨loops, placed⟩ := tracks.placed frames
    obtain ⟨partner, skipped, -⟩ := placed.loopStart found
    rw [tracks.step_loopStart budget partner, if_pos zero]
    exact ⟨rfl, tracks.goTo _ skipped⟩
  | enter frames budget found nonzero =>
    obtain ⟨loops, placed⟩ := tracks.placed frames
    obtain ⟨partner, -, entered⟩ := placed.loopStart found
    rw [tracks.step_loopStart budget partner, if_neg nonzero]
    exact ⟨rfl, tracks.goTo _ entered⟩
  | unclosed frames budget unclosed =>
    obtain ⟨loops, placed⟩ := tracks.placed frames
    obtain ⟨lone, -, -, passed⟩ := placed.unmatched (.inr ⟨rfl, unclosed⟩) (Int.le_refl _)
    rw [tracks.step_unmatched budget placed.here rfl lone]
    exact ⟨rfl, tracks.goTo _ passed⟩
  | @stray _ _ balance _ _ frames budget =>
    obtain ⟨loops, placed⟩ := tracks.placed frames
    have met := placed.balance_le
    have lower : balance - 1 ≤ balance := by omega
    have negative : balance - 1 < 0 := by omega
    obtain ⟨lone, -, -, passed⟩ := placed.unmatched (.inl rfl) lower
    rw [tracks.step_unmatched budget placed.here rfl lone, if_pos negative]
    exact ⟨rfl, tracks.goTo _ passed⟩
  | leave frames budget zero =>
    obtain ⟨loops, placed⟩ := tracks.placed frames
    obtain ⟨i, loops', partner, below, -⟩ := placed.loop_end
    rw [tracks.step_loopEnd budget partner, if_pos zero]
    exact ⟨by simp [below.ne_nil], tracks.goTo _ below⟩
  | again frames budget nonzero =>
    obtain ⟨loops, placed⟩ := tracks.placed frames
    obtain ⟨i, loops', partner, -, again⟩ := placed.loop_end
    rw [tracks.step_loopEnd budget partner, if_neg nonzero]
    exact ⟨rfl, tracks.goTo _ again⟩

theorem after (tracks : Tracks m c) (n : Nat) : Tracks (m.after n) (c.after n) := by
  induction n with
  | zero => exact tracks
  | succ n ih => exact (ih.of_transition (m.after n).transition).2

/-- The loops being run are the pairs of brackets around the counter. -/
theorem depth_eq (tracks : Tracks m c) :
    m.depth = (bracketPairs c.tokens).countP fun (i, j) => i < c.pc ∧ c.pc ≤ j := by
  rw [List.countP_eq_length_filter]
  rcases tracks.place with ⟨loops, placed⟩ | ⟨ended, atEnd⟩
  · have same : loops.Perm
        ((bracketPairs c.tokens).filter fun (i, j) => i < c.pc ∧ c.pc ≤ j) := by
      refine (List.perm_ext_iff_of_nodup placed.nodup_loops (nodup_bracketPairs.filter _)).2 ?_
      rintro ⟨i, j⟩
      simp [placed.mem_loops_iff, mem_bracketPairs_iff]
    rw [depth, placed.length_eq, ← same.length_eq, Nat.add_sub_cancel]
  · have none : (bracketPairs c.tokens).filter (fun (i, j) => i < c.pc ∧ c.pc ≤ j) = [] := by
      refine List.filter_eq_nil_iff.2 ?_
      rintro ⟨i, j⟩ listed
      have inside := (List.getElem?_eq_some_iff.1 (mem_bracketPairs_iff.1 listed).closes).1
      simp only [decide_eq_true_eq]
      omega
    rw [depth, ended, none]
    rfl

end Tracks

/-- Whatever was called, some counter stands where the machine stands. -/
theorem Reachable.tracked {settings : Settings} {program input : String} {m : Machine}
    (reached : Reachable (Machine.start settings program input) m) :
    ∃ c, c.tokens = tokenize program ∧ Tracks m c := by
  refine @Reachable.invariant _ m
    (fun m => ∃ c : JumpMachine, c.tokens = tokenize program ∧ Tracks m c) ?_ ?_ ?_ ?_ reached
  · exact ⟨_, rfl, .start settings program input⟩
  · rintro m ⟨c, tokens, tracks⟩
    exact ⟨c.step.2, c.step_program.1.trans tokens, (tracks.of_transition m.transition).2⟩
  · rintro m ⟨c, tokens, tracks⟩
    exact ⟨{ c with store := m.drained.store }, tokens, tracks.table, rfl, tracks.steps,
      tracks.stepLimit, tracks.place⟩
  · rintro m ⟨c, tokens, tracks⟩
    exact ⟨{ c with pc := c.tokens.length, store := m.stopped.store }, tokens, tracks.table, rfl,
      tracks.steps, tracks.stepLimit, .inr ⟨rfl, rfl⟩⟩

theorem Reachable.placed {settings : Settings} {program input : String} {m : Machine}
    {top : Frame} {outer : List Frame}
    (reached : Reachable (Machine.start settings program input) m) (frames : m.frames = top :: outer) :
    ∃ index loops, Placed (tokenize program) (top :: outer) index loops := by
  obtain ⟨c, tokens, tracks⟩ := reached.tracked
  obtain ⟨loops, placed⟩ := tracks.placed frames
  rw [tokens] at placed
  exact ⟨c.pc, loops, placed⟩

/-- However often it has been stepped, a loaded machine stands where the machine with a counter stands,
and the next step of both gives the same answer. -/
theorem steps_agree_with_jump_machine {settings : Settings} {program input : String} {m : Machine}
    (loaded : Machine.load settings program input = .ok m) (n : Nat) :
    let v := m.after n
    let c := (JumpMachine.start settings program input).after n
    v.step.answer = c.step.1 ∧ v.steps = c.steps ∧ v.tape = c.store.tape ∧
      v.input = c.store.input ∧ v.output = c.store.output ∧
      v.depth = (bracketPairs (tokenize program)).countP fun (i, j) => i < c.pc ∧ c.pc ≤ j := by
  obtain ⟨-, rfl⟩ := load_eq_ok_iff.1 loaded
  intro v c
  have tracks : Tracks v c := (Tracks.start settings program input).after n
  have answers := (tracks.of_transition v.transition).1
  have depth := tracks.depth_eq
  rw [((JumpMachine.start settings program input).after_program n).1] at depth
  exact ⟨answers.symm, tracks.steps.symm, congrArg Store.tape tracks.store.symm,
    congrArg Store.input tracks.store.symm, congrArg Store.output tracks.store.symm, depth⟩

theorem unmatched_brackets_agree_with_jump_machine :
    let m := Machine.start {} "+][[-]" ""
    let c := JumpMachine.start {} "+][[-]" ""
    Machine.load {} "+][[-]" "" = .ok m ∧ (m.after 1).step.answer = .error .invalidSyntax ∧
      (c.after 1).step.1 = .error .invalidSyntax ∧ (m.after 4).depth = 1 ∧ (c.after 4).pc = 4 := by
  intro m c
  have loaded : Machine.load {} "+][[-]" "" = .ok m := rfl
  have stray := (steps_agree_with_jump_machine loaded 1).1
  obtain ⟨-, -, -, -, -, depth⟩ := steps_agree_with_jump_machine loaded 4
  have inside : ((JumpMachine.start {} "+][[-]" "").after 4).pc = 4 := by decide
  exact ⟨loaded, stray, rfl, depth, inside⟩

end TapeMachine

import TapeMachine.Proofs.History
import TapeMachine.Proofs.Transition

/-! What programs read and write, over whole histories. Every character taken from the input goes to one
`input` token, every `output` token adds one character to the output, and runs hand the output over
without loss. Steps inside a run count as steps called one by one. -/
namespace TapeMachine

open Machine

namespace Machine

/-- The token that the next step dispatches: none at the end of a sequence, and none once the limit is
used up. -/
def dispatched (m : Machine) : Option Token :=
  match m.frames with
  | ⟨_, token :: _, _, _⟩ :: _ => if m.HasBudget then some token else none
  | _ => none

/-- What the next step takes from the input: a character if it dispatches an `input` that does not
fail. -/
def delivered (m : Machine) : List Char :=
  match m.dispatched, m.step.answer with
  | some .input, .ok _ => m.input.take 1
  | _, _ => []

/-- What the next step adds to the output: the current cell's character if it dispatches an
`output`. -/
def emitted (m : Machine) : List Char :=
  if m.dispatched = some .output then [m.tape.current.char] else []

/-- The machines at which a run takes its steps, of which so many come before the last. -/
def trail (m : Machine) : (steps : Nat) → List Machine
  | 0 => [m]
  | steps + 1 => m :: m.step.next.trail steps

end Machine

section Dispatched

variable {m : Machine} {token : Token} {tokens rest : List Token} {balance : Int} {isLoop : Bool}
  {outer : List Frame}

theorem dispatched_of_token (frames : m.frames = ⟨tokens, token :: rest, balance, isLoop⟩ :: outer)
    (budget : m.HasBudget) : m.dispatched = some token := by
  simp only [dispatched, frames, if_pos budget]

theorem frames_of_dispatched (next : m.dispatched = some token) :
    m.HasBudget ∧ ∃ tokens rest balance isLoop outer,
      m.frames = ⟨tokens, token :: rest, balance, isLoop⟩ :: outer := by
  unfold dispatched at next
  split at next
  · rename_i frames
    split at next
    · cases next
      exact ⟨‹_›, _, _, _, _, _, frames⟩
    · simp at next
  · simp at next

theorem dispatched_of_end (frames : m.frames = ⟨tokens, [], balance, isLoop⟩ :: outer) :
    m.dispatched = none := by
  simp only [dispatched, frames]

theorem dispatched_of_exhausted {limit : UInt64} (limited : m.stepLimit = some limit)
    (spent : limit.toNat ≤ m.steps) : m.dispatched = none := by
  have refused : ¬m.HasBudget := fun budget => by
    have room := budget limit limited
    omega
  unfold dispatched
  split
  · exact if_neg refused
  · rfl

theorem delivered_eq_nil (other : m.dispatched ≠ some .input) : m.delivered = [] := by
  unfold delivered
  split
  · contradiction
  · rfl

theorem delivered_of_fault {fault : Fault} (failed : m.step.answer = .error fault) :
    m.delivered = [] := by
  unfold delivered
  split
  · rename_i succeeded
    simp [failed] at succeeded
  · rfl

theorem delivered_of_ok {more : Bool} (next : m.dispatched = some token)
    (succeeded : m.step.answer = .ok more) :
    m.delivered = if token = .input then m.input.take 1 else [] := by
  simp only [delivered, next, succeeded]
  cases token <;> rfl

theorem emitted_eq_nil (other : m.dispatched ≠ some .output) : m.emitted = [] :=
  if_neg other

theorem emitted_of_token (next : m.dispatched = some token) :
    m.emitted = if token = .output then [m.tape.current.char] else [] := by
  simp [emitted, next]

end Dispatched

/-- A token that is performed takes from the input and adds to the output what it should. -/
theorem Store.perform_channels {s s' : Store} {token : Token} (performed : s.perform token = .ok s') :
    s.input = (if token = .input then s.input.take 1 else []) ++ s'.input ∧
      s'.output.toList =
        s.output.toList ++ if token = .output then [s.tape.current.char] else [] := by
  cases token with
  | input =>
    simp only [Store.perform] at performed
    cases unread : s.input with
    | nil => simp [unread] at performed
    | cons char rest =>
      simp only [unread, Except.ok.injEq] at performed
      subst performed
      simp
  | output =>
    simp only [Store.perform, Except.ok.injEq] at performed
    subst performed
    simp
  | loopStart | loopEnd | undefined => simp [Store.perform] at performed
  | _ =>
    simp only [Store.perform, Except.ok.injEq] at performed
    subst performed
    simp

/-- What one step does to the input and the output. -/
theorem Transition.channels {m : Machine} {taken : Step} (transition : Transition m taken) :
    m.input = m.delivered ++ taken.next.input ∧
      taken.next.output.toList = m.output.toList ++ m.emitted := by
  have silent : m.dispatched ≠ some .input → m.dispatched ≠ some .output →
      taken.next.store = m.store →
        m.input = m.delivered ++ taken.next.input ∧
          taken.next.output.toList = m.output.toList ++ m.emitted := by
    intro noInput noOutput same
    have input : taken.next.input = m.input := congrArg Store.input same
    have output : taken.next.output = m.output := congrArg Store.output same
    simp [delivered_eq_nil noInput, emitted_eq_nil noOutput, input, output]
  have stepped := step_of_transition transition
  cases transition with
  | idle ended => exact silent (by simp [dispatched, ended]) (by simp [dispatched, ended]) rfl
  | finish frames | leave frames _ _ | again frames _ _ =>
    have none := dispatched_of_end frames
    exact silent (by simp [none]) (by simp [none]) rfl
  | exhausted _ limited spent =>
    have none := dispatched_of_exhausted limited spent
    exact silent (by simp [none]) (by simp [none]) rfl
  | skip frames budget _ _ | enter frames budget _ _ | unclosed frames budget _
  | stray frames budget =>
    have bracket := dispatched_of_token frames budget
    exact silent (by simp [bracket]) (by simp [bracket]) rfl
  | perform frames budget _ performed =>
    have next := dispatched_of_token frames budget
    have channels := Store.perform_channels performed
    rw [delivered_of_ok next (congrArg Step.answer stepped), emitted_of_token next]
    exact channels
  | @refuse _ token _ _ _ _ fault frames budget _ refused =>
    have next := dispatched_of_token frames budget
    have quiet : token ≠ .output := by
      rintro rfl
      simp [Store.perform] at refused
    rw [delivered_of_fault (congrArg Step.answer stepped), emitted_of_token next, if_neg quiet]
    exact ⟨rfl, (List.append_nil _).symm⟩

/-! ## Whole histories -/

/-- The output that a run hands over, whichever way it ends. -/
def handedOver : Except Failure String → String
  | .ok output => output
  | .error failure => failure.partialOutput

/-- What a call hands over: a single step hands over nothing. -/
def Observation.output (o : Observation) : String :=
  match o.answer with
  | .ofStep _ => ""
  | .ofRun answer => handedOver answer

/-- A history with the machines at which its steps were taken, the first one first; a run is gone
through step by step. -/
inductive Chronicle (m₀ : Machine) : List Observation → List Machine → Machine → Prop
  | start : Chronicle m₀ [] [] m₀
  | step {log stepped m} : Chronicle m₀ log stepped m →
      Chronicle m₀ (m.step.next.observe (.ofStep m.step.answer) :: log) (stepped ++ [m]) m.step.next
  | run {log stepped m n answer final} : Chronicle m₀ log stepped m → Halts n m answer final →
      Chronicle m₀ (final.observe (.ofRun answer) :: log) (stepped ++ m.trail n) final

section Chronicle

variable {m₀ m final : Machine} {log : List Observation} {stepped : List Machine} {n : Nat}
  {answer : Except Failure String}

theorem history_iff_chronicle : History m₀ log m ↔ ∃ stepped, Chronicle m₀ log stepped m := by
  constructor
  · intro history
    induction history with
    | start => exact ⟨[], .start⟩
    | step _ ih =>
      obtain ⟨stepped, chronicle⟩ := ih
      exact ⟨_, chronicle.step⟩
    | run _ ended ih =>
      obtain ⟨stepped, chronicle⟩ := ih
      obtain ⟨_, halts⟩ := halts_of_run ended
      exact ⟨_, chronicle.run halts⟩
  · rintro ⟨stepped, chronicle⟩
    induction chronicle with
    | start => exact .start
    | step _ ih => exact ih.step
    | run _ halts ih =>
      obtain ⟨fuel, r, ended, rfl, rfl⟩ := halts.run
      exact ih.run ended

/-- A run takes from the input and hands over what its steps did, and leaves no output behind. -/
theorem Halts.channels (halts : Halts n m answer final) :
    m.input = (m.trail n).flatMap delivered ++ final.input ∧
      (handedOver answer).toList = m.output.toList ++ (m.trail n).flatMap emitted ∧
      final.output = "" := by
  induction halts with
  | @finished m _ | @failed m _ _ =>
    obtain ⟨input, output⟩ := m.transition.channels
    simp only [trail, List.flatMap_cons, List.flatMap_nil, List.append_nil]
    exact ⟨input, output, rfl⟩
  | @step _ m _ _ _ _ ih =>
    obtain ⟨input, output⟩ := m.transition.channels
    obtain ⟨rest, handed, drained⟩ := ih
    simp only [trail, List.flatMap_cons, List.append_assoc]
    refine ⟨?_, ?_, drained⟩
    · rw [← rest, ← input]
    · rw [handed, output, List.append_assoc]

/-- Nothing that was taken from the input or added to the output gets lost between the calls. -/
theorem Chronicle.channels (chronicle : Chronicle m₀ log stepped m) :
    m₀.input = stepped.flatMap delivered ++ m.input ∧
      (log.reverse.flatMap fun o => o.output.toList) ++ m.output.toList =
        m₀.output.toList ++ stepped.flatMap emitted := by
  induction chronicle with
  | start => simp
  | @step log stepped m _ ih =>
    obtain ⟨input, output⟩ := m.transition.channels
    obtain ⟨earlier, handed⟩ := ih
    have nothing : (m.step.next.observe (.ofStep m.step.answer)).output = "" := rfl
    simp only [List.flatMap_append, List.flatMap_cons, List.flatMap_nil, List.append_nil,
      List.reverse_cons, nothing, String.toList_empty, List.append_assoc]
    refine ⟨?_, ?_⟩
    · rw [← input, earlier]
    · rw [output, ← List.append_assoc, handed, List.append_assoc]
  | @run log stepped m n answer final _ halts ih =>
    obtain ⟨input, output, drained⟩ := halts.channels
    obtain ⟨earlier, handed⟩ := ih
    have text : (final.observe (.ofRun answer)).output = handedOver answer := rfl
    simp only [List.flatMap_append, List.flatMap_cons, List.flatMap_nil, List.append_nil,
      List.reverse_cons, text, drained, String.toList_empty, List.append_assoc]
    refine ⟨?_, ?_⟩
    · rw [← input, earlier]
    · rw [output, ← List.append_assoc, handed, List.append_assoc]

end Chronicle

/-- An `input` that does not fail takes one character, and its code fills the current cell. -/
theorem step_of_input {m : Machine} {more : Bool} (next : m.dispatched = some .input)
    (succeeded : m.step.answer = .ok more) :
    ∃ char, m.delivered = [char] ∧ m.step.next.tape = m.tape.modify (·.receive char) := by
  obtain ⟨budget, _, _, _, _, _, frames⟩ := frames_of_dispatched next
  cases unread : m.input with
  | nil =>
    have refused : m.store.perform .input = .error .emptyInput := by
      simp only [Store.perform, store, unread]
    rw [step_of_transition (.refuse frames budget rfl refused)] at succeeded
    simp at succeeded
  | cons char rest =>
    have performed : m.store.perform .input =
        .ok ⟨m.tape.modify (·.receive char), rest, m.output⟩ := by
      simp only [Store.perform, store, unread]
    refine ⟨char, ?_, ?_⟩
    · rw [delivered_of_ok next succeeded, unread]
      rfl
    · rw [step_of_transition (.perform frames budget rfl performed)]
      rfl

end TapeMachine

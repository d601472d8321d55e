import TapeMachine.Machine.Step
import TapeMachine.Proofs.Nesting

/-! What one step can do, said once. Every step is one of eleven transitions, each with its guard, its
answer, its next machine and its report; what holds of all steps is proved by going through them. -/
namespace TapeMachine

/-- What all frames of a machine share. -/
structure Store where
  tape : Tape
  input : List Char
  output : String
  deriving DecidableEq, Repr

def Store.fresh (settings : Settings) (input : String) : Store where
  tape := .blank settings.initialCells settings.growthChunk settings.cellBits
  input := input.toList
  output := ""

/-- What a token other than a bracket does. Brackets move between frames and do not act on the store;
by itself a bracket is refused. -/
def Store.perform (s : Store) : Token → Except Fault Store
  | .increment => .ok { s with tape := s.tape.modify .increment }
  | .decrement => .ok { s with tape := s.tape.modify .decrement }
  | .right => .ok { s with tape := s.tape.moveRight }
  | .left => .ok { s with tape := s.tape.moveLeft }
  | .input =>
    match s.input with
    | [] => .error .emptyInput
    | char :: input => .ok { s with input, tape := s.tape.modify (·.receive char) }
  | .output => .ok { s with output := s.output.push s.tape.current.char }
  | .loopStart | .loopEnd => .error .invalidSyntax
  | .undefined char => .error (.undefinedToken char)

namespace Machine

def store (m : Machine) : Store :=
  ⟨m.tape, m.input, m.output⟩

/-- The machine one counted step later, with these frames and this store. -/
def advance (m : Machine) (frames : List Frame) (store : Store) : Machine where
  frames := frames
  tape := store.tape
  input := store.input
  output := store.output
  steps := m.steps + 1
  stepLimit := m.stepLimit

section Advance

variable (m : Machine) (frames : List Frame) (s : Store)

@[simp] theorem advance_frames : (m.advance frames s).frames = frames := rfl

@[simp] theorem advance_store : (m.advance frames s).store = s := rfl

@[simp] theorem advance_tape : (m.advance frames s).tape = s.tape := rfl

@[simp] theorem advance_input : (m.advance frames s).input = s.input := rfl

@[simp] theorem advance_output : (m.advance frames s).output = s.output := rfl

@[simp] theorem advance_steps : (m.advance frames s).steps = m.steps + 1 := rfl

@[simp] theorem advance_stepLimit : (m.advance frames s).stepLimit = m.stepLimit := rfl

end Advance

def HasBudget (m : Machine) : Prop :=
  ∀ limit, m.stepLimit = some limit → m.steps < limit.toNat

instance (m : Machine) : Decidable m.HasBudget :=
  decidable_of_iff (m.stepLimit.all fun limit => m.steps < limit.toNat)
    (by simp [HasBudget, Option.all_eq_true])

theorem hasBudget_of_unlimited {m : Machine} (unlimited : m.stepLimit = none) : m.HasBudget := by
  intro limit limited
  rw [unlimited] at limited
  cases limited

/-- There is a token to dispatch or a loop to test again. -/
def Busy (m : Machine) : Prop :=
  ∃ tokens rest balance isLoop outer,
    m.frames = ⟨tokens, rest, balance, isLoop⟩ :: outer ∧ (rest = [] → isLoop = true)

end Machine

open Machine

inductive Transition (m : Machine) : Step → Prop
  | idle : m.frames = [] → Transition m ⟨.ok false, m, none⟩
  | finish {tokens balance outer} :
      m.frames = ⟨tokens, [], balance, false⟩ :: outer →
      Transition m ⟨.ok !outer.isEmpty, { m with frames := outer }, none⟩
  | exhausted {limit} : m.Busy → m.stepLimit = some limit → limit.toNat ≤ m.steps →
      Transition m ⟨.error (.stepLimitExceeded limit), m, none⟩
  | perform {tokens token rest balance isLoop outer store} :
      m.frames = ⟨tokens, token :: rest, balance, isLoop⟩ :: outer → m.HasBudget →
      token.isBracket = false → m.store.perform token = .ok store →
      Transition m ⟨.ok true, m.advance (⟨tokens, rest, balance, isLoop⟩ :: outer) store, none⟩
  | refuse {tokens token rest balance isLoop outer fault} :
      m.frames = ⟨tokens, token :: rest, balance, isLoop⟩ :: outer → m.HasBudget →
      token.isBracket = false → m.store.perform token = .error fault →
      Transition m
        ⟨.error fault, m.advance (⟨tokens, rest, balance, isLoop⟩ :: outer) m.store, none⟩
  | skip {tokens rest body after balance isLoop outer} :
      m.frames = ⟨tokens, .loopStart :: rest, balance, isLoop⟩ :: outer → m.HasBudget →
      loopBody rest = some (body, after) → m.tape.current.value = 0 →
      Transition m ⟨.ok true, m.advance (⟨tokens, after, balance, isLoop⟩ :: outer) m.store, none⟩
  | enter {tokens rest body after balance isLoop outer} :
      m.frames = ⟨tokens, .loopStart :: rest, balance, isLoop⟩ :: outer → m.HasBudget →
      loopBody rest = some (body, after) → m.tape.current.value ≠ 0 →
      Transition m
        ⟨.ok true,
          m.advance (.loop body :: ⟨tokens, after, balance, isLoop⟩ :: outer) m.store,
          some (.enteredLoop body.length (outer.length + 1))⟩
  | unclosed {tokens rest balance isLoop outer} :
      m.frames = ⟨tokens, .loopStart :: rest, balance, isLoop⟩ :: outer → m.HasBudget →
      loopBody rest = none →
      Transition m
        ⟨.error .invalidSyntax, m.advance (⟨tokens, rest, balance, isLoop⟩ :: outer) m.store, none⟩
  | stray {tokens rest balance isLoop outer} :
      m.frames = ⟨tokens, .loopEnd :: rest, balance, isLoop⟩ :: outer → m.HasBudget →
      Transition m
        ⟨.error (if balance - 1 < 0 then .invalidSyntax else .undefinedToken ']'),
          m.advance (⟨tokens, rest, balance - 1, isLoop⟩ :: outer) m.store, none⟩
  | leave {tokens balance outer} :
      m.frames = ⟨tokens, [], balance, true⟩ :: outer → m.HasBudget →
      m.tape.current.value = 0 →
      Transition m
        ⟨.ok !outer.isEmpty, m.advance outer m.store, some (.leftLoop (outer.length - 1))⟩
  | again {tokens balance outer} :
      m.frames = ⟨tokens, [], balance, true⟩ :: outer → m.HasBudget →
      m.tape.current.value ≠ 0 →
      Transition m
        ⟨.ok true, m.advance (⟨tokens, tokens, balance, true⟩ :: outer) m.store, none⟩

namespace Machine

theorem spend_of_budget {m : Machine} (budget : m.HasBudget) (act : Machine → Step) :
    m.spend act = act { m with steps := m.steps + 1 } := by
  unfold spend
  split
  · rename_i limit limited
    have room := budget limit limited
    rw [if_neg (by omega)]
  · rfl

theorem spend_of_exhausted {m : Machine} {limit : UInt64} (limited : m.stepLimit = some limit)
    (spent : limit.toNat ≤ m.steps) (act : Machine → Step) :
    m.spend act = ⟨.error (.stepLimitExceeded limit), m, none⟩ := by
  simp [spend, limited, spent, Step.fail]

theorem budget_or_exhausted (m : Machine) :
    m.HasBudget ∨ ∃ limit, m.stepLimit = some limit ∧ limit.toNat ≤ m.steps := by
  by_cases budget : m.HasBudget
  · exact .inl budget
  · simp only [HasBudget, Classical.not_forall, Nat.not_lt] at budget
    obtain ⟨limit, limited, spent⟩ := budget
    exact .inr ⟨limit, limited, spent⟩

theorem dispatch_plain (m : Machine) {token : Token} (plain : token.isBracket = false)
    (top : Frame) (outer : List Frame) :
    { m with steps := m.steps + 1 }.dispatch token top outer =
      match m.store.perform token with
      | .ok store => ⟨.ok true, m.advance (top :: outer) store, none⟩
      | .error fault => ⟨.error fault, m.advance (top :: outer) m.store, none⟩ := by
  cases token with
  | loopStart | loopEnd => simp [Token.isBracket] at plain
  | input =>
    simp only [dispatch, Store.perform, store]
    cases m.input <;> rfl
  | _ => rfl

theorem step_of_token {m : Machine} {tokens rest : List Token} {token : Token} {balance : Int}
    {isLoop : Bool} {outer : List Frame}
    (frames : m.frames = ⟨tokens, token :: rest, balance, isLoop⟩ :: outer)
    (budget : m.HasBudget) :
    m.step = { m with steps := m.steps + 1 }.dispatch token ⟨tokens, rest, balance, isLoop⟩ outer := by
  rw [step, frames]
  exact spend_of_budget budget _

theorem step_of_loop_end {m : Machine} {tokens : List Token} {balance : Int} {outer : List Frame}
    (frames : m.frames = ⟨tokens, [], balance, true⟩ :: outer) (budget : m.HasBudget) :
    m.step = { m with steps := m.steps + 1 }.retest ⟨tokens, [], balance, true⟩ outer := by
  rw [step, frames]
  exact spend_of_budget budget _

theorem step_of_transition {m : Machine} {taken : Step} (transition : Transition m taken) :
    m.step = taken := by
  cases transition with
  | idle ended =>
    rw [step, ended]
    simp [Step.proceed, ended]
  | finish frames =>
    rw [step, frames]
    rfl
  | exhausted busy limited spent =>
    obtain ⟨tokens, rest, balance, isLoop, outer, frames, more⟩ := busy
    rw [step, frames]
    cases rest with
    | nil =>
      rw [more rfl]
      exact spend_of_exhausted limited spent _
    | cons token rest => exact spend_of_exhausted limited spent _
  | perform frames budget plain performed | refuse frames budget plain performed =>
    rw [step_of_token frames budget, dispatch_plain m plain, performed]
  | skip frames budget found zero =>
    rw [step_of_token frames budget, dispatch, enterLoop, found]
    exact if_pos zero
  | enter frames budget found nonzero =>
    rw [step_of_token frames budget, dispatch, enterLoop, found]
    exact if_neg nonzero
  | unclosed frames budget found =>
    rw [step_of_token frames budget, dispatch, enterLoop, found]
    rfl
  | stray frames budget =>
    rw [step_of_token frames budget]
    rfl
  | leave frames budget zero =>
    rw [step_of_loop_end frames budget]
    exact if_pos zero
  | again frames budget nonzero =>
    rw [step_of_loop_end frames budget]
    exact if_neg nonzero

/-- Every step is a transition. -/
theorem transition (m : Machine) : Transition m m.step := by
  suffices found : ∃ taken, Transition m taken by
    obtain ⟨taken, transition⟩ := found
    rwa [step_of_transition transition]
  match frames : m.frames with
  | [] => exact ⟨_, .idle frames⟩
  | ⟨tokens, [], balance, false⟩ :: outer => exact ⟨_, .finish frames⟩
  | ⟨tokens, [], balance, true⟩ :: outer =>
    rcases m.budget_or_exhausted with budget | ⟨limit, limited, spent⟩
    · by_cases zero : m.tape.current.value = 0
      · exact ⟨_, .leave frames budget zero⟩
      · exact ⟨_, .again frames budget zero⟩
    · exact ⟨_, .exhausted ⟨tokens, [], balance, true, outer, frames, fun _ => rfl⟩ limited spent⟩
  | ⟨tokens, token :: rest, balance, isLoop⟩ :: outer =>
    rcases m.budget_or_exhausted with budget | ⟨limit, limited, spent⟩
    · cases plain : token.isBracket with
      | false =>
        cases performed : m.store.perform token with
        | ok store => exact ⟨_, .perform frames budget plain performed⟩
        | error fault => exact ⟨_, .refuse frames budget plain performed⟩
      | true =>
        rcases Token.isBracket_cases plain with rfl | rfl
        · cases found : loopBody rest with
          | none => exact ⟨_, .unclosed frames budget found⟩
          | some split =>
            by_cases zero : m.tape.current.value = 0
            · exact ⟨_, .skip frames budget found zero⟩
            · exact ⟨_, .enter frames budget found zero⟩
        · exact ⟨_, .stray frames budget⟩
    · exact ⟨_, .exhausted ⟨tokens, token :: rest, balance, isLoop, outer, frames, by simp⟩
        limited spent⟩

end Machine

/-- A step that succeeds says whether it leaves anything to run. -/
theorem Transition.running_of_ok {m : Machine} {taken : Step} {more : Bool}
    (transition : Transition m taken) (succeeded : taken.answer = .ok more) :
    (!taken.next.frames.isEmpty) = more := by
  cases transition with
  | idle ended =>
    rw [ended]
    exact Except.ok.inj succeeded
  | exhausted | refuse | unclosed | stray => simp at succeeded
  | _ => exact Except.ok.inj succeeded

/-- A step that fails neither enters nor leaves a loop. -/
theorem Transition.depth_of_fault {m : Machine} {taken : Step} {fault : Fault}
    (transition : Transition m taken) (failed : taken.answer = .error fault) :
    taken.next.depth = m.depth := by
  cases transition with
  | exhausted => rfl
  | refuse frames | unclosed frames | stray frames => simp [depth, frames]
  | _ => simp at failed

/-- A step that fails leaves the tape, the input and the output as they were. -/
theorem Transition.store_of_fault {m : Machine} {taken : Step} {fault : Fault}
    (transition : Transition m taken) (failed : taken.answer = .error fault) :
    taken.next.store = m.store := by
  cases transition with
  | exhausted | refuse | unclosed | stray => rfl
  | _ => simp at failed

end TapeMachine

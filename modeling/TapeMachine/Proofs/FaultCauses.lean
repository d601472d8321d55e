import TapeMachine.Proofs.ProgramText
import TapeMachine.Proofs.StepBudget
import TapeMachine.Proofs.WordBounds

/-! What a reported fault says of the program, the input and the limit. An undefined token stands in the
text of the program; the input runs out only when all of it was read; a limit is exceeded only when that
many steps were counted. -/
namespace TapeMachine

open Machine

namespace Machine

/-- The next step takes a character from the input. -/
def takesInput (m : Machine) : Bool :=
  match m.dispatched, m.step.answer with
  | some .input, .ok _ => true
  | _, _ => false

theorem length_delivered (m : Machine) : m.delivered.length = if m.takesInput then 1 else 0 := by
  unfold takesInput
  split
  · rename_i next succeeded
    obtain ⟨char, one, -⟩ := step_of_input next succeeded
    rw [one]
    rfl
  · rename_i other
    cases next : m.dispatched with
    | none => simp [delivered_eq_nil, next]
    | some token =>
      cases answered : m.step.answer with
      | error fault => simp [delivered_of_fault answered]
      | ok more =>
        have quiet : token ≠ .input := fun same => other more (by rw [next, same]) answered
        simp [delivered_of_ok next answered, quiet]

theorem length_flatMap_delivered (stepped : List Machine) :
    (stepped.flatMap delivered).length = stepped.countP takesInput := by
  induction stepped with
  | nil => rfl
  | cons m stepped ih =>
    rw [List.flatMap_cons, List.length_append, ih, length_delivered, List.countP_cons, Nat.add_comm]

end Machine

/-- What is so when a call reports the fault: of the program and the settings, of the machines at which
all steps so far were taken, and of the machine that the call leaves behind. -/
def Fault.Truthful (settings : Settings) (program input : String) (stepped : List Machine)
    (m : Machine) : Fault → Prop
  | invalidSyntax => True
  | undefinedToken c => c ∈ program.toList ∧ isBlank c = false ∧ c ∉ "+-><,.[]".toList
  | emptyInput => m.input = [] ∧ stepped.countP takesInput = input.length
  | stepLimitExceeded limit => settings.stepLimit = some limit ∧ m.steps = limit.toNat

theorem Store.perform_eq_undefinedToken {s : Store} {token : Token} {c : Char}
    (refused : s.perform token = .error (.undefinedToken c)) : token = .undefined c := by
  cases token with
  | input =>
    rw [Store.perform] at refused
    cases unread : s.input <;> simp [unread] at refused
  | undefined d =>
    rw [Store.perform, Except.error.injEq, Fault.undefinedToken.injEq] at refused
    rw [refused]
  | _ => simp [Store.perform] at refused

theorem Store.perform_eq_emptyInput {s : Store} {token : Token}
    (refused : s.perform token = .error .emptyInput) : s.input = [] := by
  cases token with
  | input =>
    rw [Store.perform] at refused
    cases unread : s.input with
    | nil => rfl
    | cons char rest => simp [unread] at refused
  | _ => simp [Store.perform] at refused

theorem Transition.unread_of_emptyInput {m : Machine} {taken : Step}
    (transition : Transition m taken) (failed : taken.answer = .error .emptyInput) :
    taken.next.input = [] := by
  cases transition with
  | refuse _ _ _ refused =>
    rw [Except.error.injEq] at failed
    subst failed
    exact Store.perform_eq_emptyInput refused
  | stray =>
    simp only [Except.error.injEq] at failed
    split at failed <;> simp at failed
  | _ => simp at failed

section Reachable

variable {settings : Settings} {program input : String} {m₀ m v : Machine} {fault : Fault}
  {log : List Observation} {o : Observation} {stepped : List Machine}

/-- No `loopEnd` is called undefined: the balance of a frame never rises, so one less is below zero. -/
theorem Reachable.undefined_mem {c : Char}
    (reached : Reachable (Machine.start settings program input) m)
    (failed : m.step.answer = .error (.undefinedToken c)) : .undefined c ∈ tokenize program := by
  have transition := m.transition
  generalize m.step = taken at transition failed
  cases transition with
  | refuse frames _ _ refused =>
    rw [Except.error.injEq] at failed
    subst failed
    obtain rfl := Store.perform_eq_undefinedToken refused
    obtain ⟨index, loops, placed⟩ := reached.placed frames
    exact List.mem_of_getElem? placed.here
  | @stray _ _ balance _ _ frames _ =>
    obtain ⟨index, loops, placed⟩ := reached.placed frames
    have met := placed.balance_le
    have negative : balance - 1 < 0 := by omega
    simp [negative] at failed
  | _ => simp at failed

/-- The fault that a call reports comes from its last step. -/
theorem Chronicle.last_fault (chronicle : Chronicle m₀ (o :: log) stepped v)
    (reported : o.answer.fault? = some fault) :
    ∃ w, Reachable m₀ w ∧ w.step.answer = .error fault ∧ v.input = w.step.next.input ∧
      v.steps = w.step.next.steps := by
  cases chronicle with
  | @step _ _ w chronicle =>
    refine ⟨w, ⟨_, history_iff_chronicle.2 ⟨_, chronicle⟩⟩, ?_, rfl, rfl⟩
    cases answered : w.step.answer with
    | ok more => simp [observe, answered, Answer.fault?] at reported
    | error fault' => simpa [observe, answered, Answer.fault?] using reported
  | @run _ _ w n answer _ chronicle halts =>
    cases answer with
    | ok output => simp [observe, Answer.fault?] at reported
    | error failure =>
      cases reported
      obtain ⟨proceeds, failed, -, rfl⟩ := halts.last_failed
      have reached : Reachable m₀ w := ⟨_, history_iff_chronicle.2 ⟨_, chronicle⟩⟩
      exact ⟨w.after n, reached.proceeds proceeds, failed, rfl, rfl⟩

theorem Reachable.fault_truthful (valid : settings.Valid)
    (reached : Reachable (Machine.start settings program input) m)
    (failed : m.step.answer = .error fault) (unread : v.input = m.step.next.input)
    (counted : v.steps = m.step.next.steps)
    (conserved : input.toList = stepped.flatMap delivered ++ v.input) :
    fault.Truthful settings program input stepped v := by
  cases fault with
  | invalidSyntax => trivial
  | undefinedToken c => exact undefined_mem_tokenize (reached.undefined_mem failed)
  | emptyInput =>
    rw [m.transition.unread_of_emptyInput failed] at unread
    refine ⟨unread, ?_⟩
    rw [← length_flatMap_delivered, ← String.length_toList, conserved, unread, List.append_nil]
  | stepLimitExceeded limit =>
    obtain ⟨limited, spent, same⟩ := m.transition.of_exceeded failed
    have bounded := reached.bounded valid
    have allowed := bounded.allowed limit limited
    refine ⟨bounded.stepLimit_eq.symm.trans limited, ?_⟩
    rw [counted, same]
    omega

end Reachable

/-- Whatever was called before, a fault that a call reports is so. -/
theorem every_fault_truthful {settings : Settings} {program input : String} {m : Machine}
    (loaded : Machine.load settings program input = .ok m) :
    (∀ log v, History m log v ↔ ∃ stepped, Chronicle m log stepped v) ∧
    ∀ o log stepped v, Chronicle m (o :: log) stepped v → ∀ fault, o.answer.fault? = some fault →
      fault.Truthful settings program input stepped v := by
  obtain ⟨valid, rfl⟩ := load_eq_ok_iff.1 loaded
  refine ⟨fun log v => history_iff_chronicle, fun o log stepped v chronicle fault reported => ?_⟩
  obtain ⟨w, reached, failed, unread, counted⟩ := chronicle.last_fault reported
  exact reached.fault_truthful valid failed unread counted chronicle.channels.1

/-- A stray bracket, a character read, one that is no instruction, a read too many, and the limit. -/
theorem four_faults_truthful :
    let settings : Settings := { stepLimit := some 4 }
    let m := Machine.start settings "],x,+" "a"
    let stepped := [m, m.after 1, m.after 2]
    Machine.load settings "],x,+" "a" = .ok m ∧
      (m.after 2).step.answer = .error (.undefinedToken 'x') ∧ 'x' ∈ "],x,+".toList ∧
      (m.after 3).step.answer = .error .emptyInput ∧ (m.after 4).input = [] ∧
      (stepped ++ [m.after 3]).countP takesInput = 1 ∧
      (m.after 4).step.answer = .error (.stepLimitExceeded 4) ∧ (m.after 5).steps = 4 := by
  intro settings m stepped
  have loaded : Machine.load settings "],x,+" "a" = .ok m := rfl
  have faults := (every_fault_truthful loaded).2
  have third := (((@Chronicle.start m).step).step).step
  have undefined : (m.after 2).step.answer = .error (.undefinedToken 'x') := rfl
  have starved : (m.after 3).step.answer = .error .emptyInput := rfl
  have exceeded : (m.after 4).step.answer = .error (.stepLimitExceeded 4) := rfl
  have written := faults _ _ _ _ third _ (congrArg (Answer.fault? ∘ .ofStep) undefined)
  have read := faults _ _ _ _ third.step _ (congrArg (Answer.fault? ∘ .ofStep) starved)
  have counted := faults _ _ _ _ third.step.step _ (congrArg (Answer.fault? ∘ .ofStep) exceeded)
  exact ⟨loaded, undefined, written.1, starved, read.1, read.2, exceeded, counted.2⟩

end TapeMachine

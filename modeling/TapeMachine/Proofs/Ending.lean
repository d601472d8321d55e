import TapeMachine.Proofs.FrameStack

/-! The end of a machine's work. It is reached where the program ends, never from inside a loop, or by a
run, which ends it whatever happens; from then on calls change nothing but the pending output, which the
first run hands over. -/
namespace TapeMachine

open Machine

/-- A step that fails leaves something to run. -/
theorem Transition.running_of_fault {m : Machine} {taken : Step} {fault : Fault}
    (transition : Transition m taken) (failed : taken.answer = .error fault) :
    taken.next.frames ≠ [] := by
  cases transition with
  | exhausted busy =>
    obtain ⟨_, _, _, _, _, frames, -⟩ := busy
    simp [frames]
  | refuse | unclosed | stray => simp
  | _ => simp at failed

theorem Machine.step_answer_eq_ok_false_iff (m : Machine) :
    m.step.answer = .ok false ↔ m.step.next.frames = [] := by
  cases answered : m.step.answer with
  | error fault => simp [m.transition.running_of_fault answered]
  | ok more =>
    have running := m.transition.running_of_ok answered
    cases more <;> simpa using running

/-- The program is the only frame, and all of it has been run. -/
def Machine.AtEnd (program : List Token) (m : Machine) : Prop :=
  ∃ base, m.frames = [base] ∧ base.tokens = program ∧ base.isLoop = false ∧
    base.cursor = program.length

theorem Placed.atEnd {program tokens : List Token} {balance : Int} {outer : List Frame} {index : Nat}
    {loops : List (Nat × Nat)} {m : Machine}
    (placed : Placed program (⟨tokens, [], balance, false⟩ :: outer) index loops)
    (frames : m.frames = ⟨tokens, [], balance, false⟩ :: outer) : m.AtEnd program := by
  cases placed with
  | program => exact ⟨_, frames, rfl, rfl, rfl⟩

section Reachable

variable {settings : Settings} {program input : String} {m₀ m final : Machine} {n : Nat}
  {answer : Except Failure String} {log : List Observation} {o : Observation}

/-- A loop that is left has a frame below it, so only the end of the program ends the work. -/
theorem Reachable.atEnd_iff (reached : Reachable (Machine.start settings program input) m)
    (running : m.frames ≠ []) :
    m.step.answer = .ok false ↔ m.AtEnd (tokenize program) := by
  constructor
  · intro ended
    have transition := m.transition
    generalize m.step = taken at transition ended
    cases transition with
    | idle nothing => exact absurd nothing running
    | finish frames =>
      obtain ⟨_, _, placed⟩ := reached.placed frames
      exact placed.atEnd frames
    | leave frames =>
      obtain ⟨_, _, placed⟩ := reached.placed frames
      obtain ⟨_, _, _, below, _⟩ := placed.loop_end
      simp [below.ne_nil] at ended
    | _ => simp at ended
  · rintro ⟨⟨tokens, rest, balance, isLoop⟩, frames, whole, plain, cursor⟩
    obtain ⟨_, _, placed⟩ := reached.placed frames
    have left := placed.aligned.rest_eq
    rw [cursor, whole, List.drop_length] at left
    cases left
    cases plain
    rw [step_of_transition (.finish frames)]
    rfl

theorem Halts.frames_eq_nil (halts : Halts n m answer final) : final.frames = [] := by
  induction halts with
  | @finished m ended => exact m.step_answer_eq_ok_false_iff.1 ended
  | failed => rfl
  | step _ _ ih => exact ih

/-- Nothing is left to run after a step that says so, and after any run. -/
theorem History.frames_eq_nil (history : History m₀ (o :: log) m)
    (ending : o.answer = .ofStep (.ok false) ∨ o.call = .run) : m.frames = [] := by
  cases history with
  | @step _ v =>
    rcases ending with ended | ran
    · exact v.step_answer_eq_ok_false_iff.1 (Answer.ofStep.inj ended)
    · simp at ran
  | run _ ended =>
    obtain ⟨_, halts⟩ := halts_of_run ended
    exact halts.frames_eq_nil

theorem step_of_ended (ended : m.frames = []) : m.step = ⟨.ok false, m, none⟩ :=
  step_of_transition (.idle ended)

theorem halts_of_ended (ended : m.frames = []) : Halts 0 m (.ok m.output) m.drained := by
  have halts := Halts.finished (congrArg Step.answer (step_of_ended ended))
  rwa [step_of_ended ended] at halts

theorem run_of_ended (ended : m.frames = []) (fuel : Nat) :
    ∃ r, m.run (fuel + 1) = some r ∧ r.answer = .ok m.output ∧ r.machine = m.drained :=
  runAfter_iff_halts.2 ⟨0, Nat.succ_pos fuel, halts_of_ended ended⟩

/-- Once nothing is left to run, steps change nothing, and runs nothing but the pending output. -/
theorem History.of_ended (ended : m₀.frames = []) (history : History m₀ log m) :
    ((∀ o ∈ log, o.call = .step) ∧ m = m₀) ∨ ((∃ o ∈ log, o.call = .run) ∧ m = m₀.drained) := by
  induction history with
  | start => exact .inl ⟨by simp, rfl⟩
  | step _ ih =>
    rcases ih with ⟨stepped, rfl⟩ | ⟨⟨o, listed, ran⟩, rfl⟩
    · rw [step_of_ended ended]
      exact .inl ⟨by simpa using stepped, rfl⟩
    · rw [step_of_ended (show m₀.drained.frames = [] from ended)]
      exact .inr ⟨⟨o, List.mem_cons_of_mem _ listed, ran⟩, rfl⟩
  | run _ ran ih =>
    obtain ⟨_, halts⟩ := halts_of_run ran
    refine .inr ⟨⟨_, List.mem_cons_self, rfl⟩, ?_⟩
    rcases ih with ⟨-, rfl⟩ | ⟨-, rfl⟩
    · exact (halts.unique (halts_of_ended ended)).2.2
    · exact (halts.unique (halts_of_ended (show m₀.drained.frames = [] from ended))).2.2

end Reachable

/-- A step finds nothing left to run exactly if it leaves no frames, and on a machine with frames exactly
at the end of the program. After such a step, and after any run, whatever is called: steps find nothing
left to run, runs succeed, the first of them with the pending output and all others with none, and
nothing else changes. -/
theorem end_is_absorbing {settings : Settings} {program input : String} {m : Machine}
    (loaded : load settings program input = .ok m) :
    (∀ v, Reachable m v → (v.step.answer = .ok false ↔ v.step.next.frames = []) ∧
      (v.frames ≠ [] → (v.step.answer = .ok false ↔ v.AtEnd (tokenize program)))) ∧
    ∀ o log v, History m (o :: log) v → o.answer = .ofStep (.ok false) ∨ o.call = .run →
      ∀ later w, History v later w →
        w.step.answer = .ok false ∧ w.steps = v.steps ∧ w.tape = v.tape ∧ w.input = v.input ∧
        ∀ fuel, ∃ r, w.run (fuel + 1) = some r ∧
          ((∀ o ∈ later, o.call = .step) → r.answer = .ok v.output) ∧
          ((∃ o ∈ later, o.call = .run) → r.answer = .ok "") := by
  obtain ⟨-, rfl⟩ := load_eq_ok_iff.1 loaded
  refine ⟨fun v reached => ⟨v.step_answer_eq_ok_false_iff, reached.atEnd_iff⟩, ?_⟩
  intro o log v history ending later w calls
  have ended := history.frames_eq_nil ending
  rcases calls.of_ended ended with ⟨stepped, rfl⟩ | ⟨⟨call, listed, called⟩, rfl⟩
  · refine ⟨congrArg Step.answer (step_of_ended ended), rfl, rfl, rfl, fun fuel => ?_⟩
    obtain ⟨r, ran, answer, -⟩ := run_of_ended ended fuel
    refine ⟨r, ran, fun _ => answer, fun ⟨call, listed, called⟩ => ?_⟩
    simp [stepped call listed] at called
  · have drained : v.drained.frames = [] := ended
    refine ⟨congrArg Step.answer (step_of_ended drained), rfl, rfl, rfl, fun fuel => ?_⟩
    obtain ⟨r, ran, answer, -⟩ := run_of_ended drained fuel
    refine ⟨r, ran, fun stepped => ?_, fun _ => answer⟩
    simp [stepped call listed] at called

/-- Stepped to its end, the machine still holds a character, which the first of two runs gives back. -/
theorem pending_output_outlasts_end :
    let m := Machine.start {} "+[.-]" ""
    let v := m.after 6
    load {} "+[.-]" "" = .ok m ∧ (m.after 5).step.answer = .ok false ∧
      (m.after 5).AtEnd (tokenize "+[.-]") ∧ v.output = "\x01" ∧
      ∃ r, v.run 1 = some r ∧ r.answer = .ok v.output ∧ r.machine.step.answer = .ok false ∧
        r.machine.tape = v.tape ∧ ∃ r', r.machine.run 1 = some r' ∧ r'.answer = .ok "" := by
  intro m v
  have loaded : load {} "+[.-]" "" = .ok m := rfl
  have reached : Reachable m (m.after 5) := Reachable.start.step.step.step.step.step
  have running : (m.after 5).frames ≠ [] := by decide
  have ended : (m.after 5).step.answer = .ok false := by decide
  have pending : v.output = "\x01" := by decide
  obtain ⟨ends, absorbs⟩ := end_is_absorbing loaded
  have atEnd := ((ends _ reached).2 running).1 ended
  obtain ⟨log, history⟩ := reached
  have later := absorbs _ _ v history.step (.inl (congrArg Answer.ofStep ended))
  obtain ⟨-, -, -, -, first⟩ := later _ _ .start
  obtain ⟨r, ran, answer, -⟩ := first 0
  have behind := History.start.run ran
  obtain ⟨nothing, -, tape, -, second⟩ := later _ _ behind
  obtain ⟨r', ran', -, none⟩ := second 0
  exact ⟨loaded, ended, atEnd, pending, r, ran, answer (by simp), nothing, tape, r', ran',
    none ⟨_, List.mem_cons_self, rfl⟩⟩

end TapeMachine

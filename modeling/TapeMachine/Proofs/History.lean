import TapeMachine.Machine.Run

/-! What can be done with a machine: single steps, whole runs, and any of them in any order. A run is a
row of steps with something left to run, and one more that ends it. -/
namespace TapeMachine

namespace Machine

theorem load_eq_ok_iff {settings : Settings} {program input : String} {m : Machine} :
    load settings program input = .ok m ↔ settings.Valid ∧ m = start settings program input := by
  rw [← settings.check_eq_ok_iff, load]
  cases settings.check with
  | error defect => simp [bind, Except.bind]
  | ok passed =>
    simp only [bind, Except.bind, pure, Except.pure, Except.ok.injEq, true_and]
    exact eq_comm

/-- The machine after so many calls of `step`, failed ones among them. -/
def after (m : Machine) : Nat → Machine
  | 0 => m
  | n + 1 => (m.after n).step.next

def drained (m : Machine) : Machine :=
  { m with output := "" }

/-- The machine once a run of it has failed. -/
def stopped (m : Machine) : Machine :=
  { m with frames := [], output := "" }

end Machine

open Machine

/-- So many steps lead from one machine to the other, each with something left to run. -/
inductive Proceeds : (steps : Nat) → Machine → Machine → Prop
  | refl (m : Machine) : Proceeds 0 m m
  | step {n : Nat} {m m' : Machine} : m.step.answer = .ok true → Proceeds n m.step.next m' →
      Proceeds (n + 1) m m'

/-- The run of a machine takes so many steps before its last one, and ends with this answer and this
machine. -/
inductive Halts : (steps : Nat) → Machine → Except Failure String → Machine → Prop
  | finished {m : Machine} : m.step.answer = .ok false →
      Halts 0 m (.ok m.step.next.output) m.step.next.drained
  | failed {m : Machine} {fault : Fault} : m.step.answer = .error fault →
      Halts 0 m (.error ⟨fault, m.step.next.output⟩) m.step.next.stopped
  | step {n : Nat} {m : Machine} {answer : Except Failure String} {final : Machine} :
      m.step.answer = .ok true → Halts n m.step.next answer final → Halts (n + 1) m answer final

theorem after_step_next (m : Machine) (n : Nat) : m.step.next.after n = m.after (n + 1) := by
  induction n with
  | zero => rfl
  | succ n ih => exact congrArg (fun v => v.step.next) ih

theorem after_add (m : Machine) (n k : Nat) : (m.after n).after k = m.after (n + k) := by
  induction k with
  | zero => rfl
  | succ k ih => exact congrArg (fun v => v.step.next) ih

/-- However many steps are asked for, they lead on or the run ends before. -/
theorem proceeds_or_halts (m : Machine) (n : Nat) :
    Proceeds n m (m.after n) ∨ ∃ k, k < n ∧ ∃ answer final, Halts k m answer final := by
  induction n generalizing m with
  | zero => exact .inl (.refl m)
  | succ n ih =>
    cases ending : m.step.answer with
    | error fault => exact .inr ⟨0, Nat.succ_pos n, _, _, .failed ending⟩
    | ok more =>
      cases more with
      | false => exact .inr ⟨0, Nat.succ_pos n, _, _, .finished ending⟩
      | true =>
        rcases ih m.step.next with proceeds | ⟨k, short, answer, final, halts⟩
        · rw [after_step_next] at proceeds
          exact .inl (.step ending proceeds)
        · exact .inr ⟨k + 1, Nat.succ_lt_succ short, answer, final, .step ending halts⟩

section Halts

variable {n k : Nat} {m m' m'' final final' : Machine} {answer answer' : Except Failure String}

theorem Proceeds.of_step (taken : m.step.answer = .ok true ∧ m.step.next = m')
    (rest : Proceeds n m' m'') : Proceeds (n + 1) m m'' := by
  obtain ⟨more, rfl⟩ := taken
  exact .step more rest

theorem Proceeds.trans (first : Proceeds n m m') (second : Proceeds k m' m'') :
    Proceeds (n + k) m m'' := by
  induction first with
  | refl m => rwa [Nat.zero_add]
  | step more _ ih =>
    rw [Nat.add_right_comm]
    exact .step more (ih second)

theorem Proceeds.halts (first : Proceeds n m m') (rest : Halts k m' answer final) :
    Halts (n + k) m answer final := by
  induction first with
  | refl m => rwa [Nat.zero_add]
  | step more _ ih =>
    rw [Nat.add_right_comm]
    exact .step more (ih rest)

theorem Proceeds.rest_halts (first : Proceeds n m m') (whole : Halts k m answer final) :
    ∃ left, k = n + left ∧ Halts left m' answer final := by
  induction first generalizing k with
  | refl m => exact ⟨k, (Nat.zero_add k).symm, whole⟩
  | step more _ ih =>
    cases whole with
    | finished ended => simp [more] at ended
    | failed ended => simp [more] at ended
    | step _ whole =>
      obtain ⟨left, rfl, rest⟩ := ih whole
      exact ⟨left, Nat.add_right_comm .., rest⟩

theorem Halts.unique (one : Halts n m answer final) (other : Halts k m answer' final') :
    n = k ∧ answer = answer' ∧ final = final' := by
  induction one generalizing k with
  | finished ended =>
    cases other with
    | finished _ => exact ⟨rfl, rfl, rfl⟩
    | failed failed => simp [ended] at failed
    | step more _ => simp [ended] at more
  | failed ended =>
    cases other with
    | finished finished => simp [ended] at finished
    | failed failed =>
      rw [ended, Except.error.injEq] at failed
      subst failed
      exact ⟨rfl, rfl, rfl⟩
    | step more _ => simp [ended] at more
  | step more _ ih =>
    cases other with
    | finished ended => simp [more] at ended
    | failed ended => simp [more] at ended
    | step _ other =>
      obtain ⟨rfl, same⟩ := ih other
      exact ⟨rfl, same⟩

theorem Proceeds.eq_after (proceeds : Proceeds n m m') : m' = m.after n := by
  induction proceeds with
  | refl m => rfl
  | step _ _ ih => rw [ih, after_step_next]

/-- A run that ends well does so at a step that leaves nothing to run. -/
theorem Halts.last_finished {output : String} (halts : Halts n m (.ok output) final) :
    Proceeds n m (m.after n) ∧ (m.after n).step.answer = .ok false ∧
      (m.after n).step.next.output = output ∧ final = (m.after n).step.next.drained := by
  generalize same : Except.ok output = answer at halts
  induction halts with
  | finished ended =>
    cases same
    exact ⟨.refl _, ended, rfl, rfl⟩
  | failed _ => simp at same
  | @step n m _ _ more _ ih =>
    rw [← after_step_next]
    obtain ⟨proceeds, last⟩ := ih same
    exact ⟨.step more proceeds, last⟩

/-- A run that fails does so at a step that fails. -/
theorem Halts.last_failed {failure : Failure} (halts : Halts n m (.error failure) final) :
    Proceeds n m (m.after n) ∧ (m.after n).step.answer = .error failure.fault ∧
      (m.after n).step.next.output = failure.partialOutput ∧
      final = (m.after n).step.next.stopped := by
  generalize same : Except.error failure = answer at halts
  induction halts with
  | finished _ => simp at same
  | failed ended =>
    cases same
    exact ⟨.refl _, ended, rfl, rfl⟩
  | @step n m _ _ more _ ih =>
    rw [← after_step_next]
    obtain ⟨proceeds, last⟩ := ih same
    exact ⟨.step more proceeds, last⟩

theorem Halts.failed_step {failure : Failure} (halts : Halts n m (.error failure) final) :
    ∃ stuck, Proceeds n m stuck ∧ stuck.step.answer = .error failure.fault :=
  ⟨_, halts.last_failed.1, halts.last_failed.2.1⟩

/-- A run under a bound ends exactly if its steps before the last are fewer. What was reported
before does not matter to the answer. -/
theorem runAfter_iff_halts {earlier : List Event} {fuel : Nat} :
    (∃ r, m.runAfter earlier fuel = some r ∧ r.answer = answer ∧ r.machine = final) ↔
      ∃ n, n < fuel ∧ Halts n m answer final := by
  induction fuel generalizing m earlier with
  | zero => simp [runAfter]
  | succ fuel ih =>
    rw [runAfter]
    cases ending : m.step.answer with
    | error fault =>
      simp only [Option.some.injEq, exists_eq_left']
      constructor
      · rintro ⟨rfl, rfl⟩
        exact ⟨0, by omega, .failed ending⟩
      · rintro ⟨n, bound, whole⟩
        exact ((Halts.failed ending).unique whole).2
    | ok more =>
      cases more with
      | true =>
        simp only [ih]
        constructor
        · rintro ⟨n, bound, rest⟩
          exact ⟨n + 1, by omega, .step ending rest⟩
        · rintro ⟨n, bound, whole⟩
          obtain ⟨left, rfl, rest⟩ := (Proceeds.step ending (.refl _)).rest_halts whole
          exact ⟨left, by omega, rest⟩
      | false =>
        simp only [Option.some.injEq, exists_eq_left']
        constructor
        · rintro ⟨rfl, rfl⟩
          exact ⟨0, by omega, .finished ending⟩
        · rintro ⟨n, bound, whole⟩
          exact ((Halts.finished ending).unique whole).2

theorem halts_of_run {fuel : Nat} {r : Run} (ended : m.run fuel = some r) :
    ∃ n, Halts n m r.answer r.machine := by
  obtain ⟨n, _, halts⟩ := runAfter_iff_halts.1 ⟨r, ended, rfl, rfl⟩
  exact ⟨n, halts⟩

theorem Halts.run (halts : Halts n m answer final) :
    ∃ fuel r, m.run fuel = some r ∧ r.answer = answer ∧ r.machine = final :=
  ⟨n + 1, runAfter_iff_halts.2 ⟨n, Nat.lt_succ_self n, halts⟩⟩

end Halts

/-- The answer of the step with which a run ends so. -/
def lastAnswer : Except Failure String → Except Fault Bool
  | .ok _ => .ok false
  | .error failure => .error failure.fault

/-- Of two related machines the second answers a step as the first does, and has the same output. Steps
with an excepted answer may differ. -/
structure Simulation (excepted : Except Fault Bool → Prop) (R : Machine → Machine → Prop) : Prop where
  output : ∀ {m m'}, R m m' → m'.output = m.output
  step : ∀ {m m'}, R m m' → ¬excepted m.step.answer →
    m'.step.answer = m.step.answer ∧ R m.step.next m'.step.next

namespace Simulation

variable {excepted : Except Fault Bool → Prop} {R : Machine → Machine → Prop} {n : Nat}
  {m m' v final : Machine} {answer : Except Failure String}

theorem proceeds (simulation : Simulation excepted R) (going : ¬excepted (.ok true))
    (related : R m m') (first : Proceeds n m v) :
    Proceeds n m' (m'.after n) ∧ R v (m'.after n) := by
  induction first generalizing m' with
  | refl m => exact ⟨.refl _, related⟩
  | step onward _ ih =>
    obtain ⟨answers, next⟩ := simulation.step related (by rwa [onward])
    rw [← after_step_next]
    obtain ⟨rest, last⟩ := ih next
    exact ⟨.step (answers.trans onward) rest, last⟩

/-- Before their outputs are handed over, the two are still related. -/
theorem halts (simulation : Simulation excepted R) (going : ¬excepted (.ok true))
    (related : R m m') (halts : Halts n m answer final) (kept : ¬excepted (lastAnswer answer)) :
    ∃ v v', R v v' ∧ ((final = v.drained ∧ Halts n m' answer v'.drained) ∨
      (final = v.stopped ∧ Halts n m' answer v'.stopped)) := by
  cases answer with
  | ok output =>
    obtain ⟨first, ended, pending, rfl⟩ := halts.last_finished
    obtain ⟨first', stands⟩ := simulation.proceeds going related first
    obtain ⟨answers, next⟩ := simulation.step stands (by rwa [ended])
    have finished := Halts.finished (answers.trans ended)
    rw [simulation.output next, pending] at finished
    exact ⟨_, _, next, .inl ⟨rfl, first'.halts finished⟩⟩
  | error failure =>
    obtain ⟨first, ended, pending, rfl⟩ := halts.last_failed
    obtain ⟨first', stands⟩ := simulation.proceeds going related first
    obtain ⟨answers, next⟩ := simulation.step stands (by rwa [ended])
    have failed := Halts.failed (answers.trans ended)
    rw [simulation.output next, pending] at failed
    exact ⟨_, _, next, .inr ⟨rfl, first'.halts failed⟩⟩

end Simulation

/-- The two runs end alike or not at all, however many steps they take. -/
structure RunsAlike (m m' : Machine) : Prop where
  ends : (∃ fuel r, m.run fuel = some r) ↔ ∃ fuel r, m'.run fuel = some r
  same : ∀ fuel fuel' r r', m.run fuel = some r → m'.run fuel' = some r' →
    r'.answer = r.answer ∧ r'.machine.tape = r.machine.tape ∧ r'.machine.input = r.machine.input

theorem RunsAlike.of_halts {m m' : Machine}
    (forward : ∀ n answer final, Halts n m answer final → ∃ n' final', Halts n' m' answer final' ∧
      final'.tape = final.tape ∧ final'.input = final.input)
    (backward : ∀ n answer final, Halts n m' answer final → ∃ k answer' final',
      Halts k m answer' final') : RunsAlike m m' := by
  refine ⟨⟨?_, ?_⟩, ?_⟩
  · rintro ⟨fuel, r, ended⟩
    obtain ⟨n, halts⟩ := halts_of_run ended
    obtain ⟨_, _, halts', -⟩ := forward n _ _ halts
    obtain ⟨fuel', r', ended', -⟩ := halts'.run
    exact ⟨fuel', r', ended'⟩
  · rintro ⟨fuel, r, ended⟩
    obtain ⟨n, halts⟩ := halts_of_run ended
    obtain ⟨_, _, _, halts'⟩ := backward n _ _ halts
    obtain ⟨fuel', r', ended', -⟩ := halts'.run
    exact ⟨fuel', r', ended'⟩
  · intro fuel fuel' r r' ended ended'
    obtain ⟨n, halts⟩ := halts_of_run ended
    obtain ⟨_, final', halts', tape, input⟩ := forward n _ _ halts
    obtain ⟨_, other⟩ := halts_of_run ended'
    obtain ⟨-, answer, rfl⟩ := other.unique halts'
    exact ⟨answer, tape, input⟩

inductive Call where
  | step
  | run

inductive Answer where
  | ofStep (answer : Except Fault Bool)
  | ofRun (answer : Except Failure String)

/-- What a caller sees of a call: the answer, and what the machine shows afterwards. -/
structure Observation where
  answer : Answer
  steps : Nat
  depth : Nat
  unread : Nat
  current : UInt32

def Answer.fault? : Answer → Option Fault
  | ofStep (.error fault) => some fault
  | ofRun (.error failure) => some failure.fault
  | _ => none

def Observation.call (o : Observation) : Call :=
  match o.answer with
  | .ofStep _ => .step
  | .ofRun _ => .run

def Machine.observe (m : Machine) (answer : Answer) : Observation :=
  ⟨answer, m.steps, m.depth, m.input.length, m.tape.current.value⟩

@[simp] theorem Machine.observe_ofStep_call (m : Machine) (answer : Except Fault Bool) :
    (m.observe (.ofStep answer)).call = .step := rfl

@[simp] theorem Machine.observe_ofRun_call (m : Machine) (answer : Except Failure String) :
    (m.observe (.ofRun answer)).call = .run := rfl

/-- Calls of one machine in any order, what was seen of each, the latest first, and the machine they
lead to. A run that does not end gives back nothing and has no history behind it. -/
inductive History (m₀ : Machine) : List Observation → Machine → Prop
  | start : History m₀ [] m₀
  | step {log : List Observation} {m : Machine} : History m₀ log m →
      History m₀ (m.step.next.observe (.ofStep m.step.answer) :: log) m.step.next
  | run {log : List Observation} {m : Machine} {fuel : Nat} {r : Run} : History m₀ log m →
      m.run fuel = some r → History m₀ (r.machine.observe (.ofRun r.answer) :: log) r.machine

def Reachable (m₀ m : Machine) : Prop :=
  ∃ log, History m₀ log m

section Reachable

variable {m₀ m m' : Machine} {log log' : List Observation}

/-- The calls determine all that is seen of them, and the machine. -/
theorem History.same_calls (one : History m₀ log m) (other : History m₀ log' m')
    (calls : log.map Observation.call = log'.map Observation.call) : log = log' ∧ m = m' := by
  induction one generalizing log' m' with
  | start =>
    cases other with
    | start => exact ⟨rfl, rfl⟩
    | step _ => simp at calls
    | run _ _ => simp at calls
  | step _ ih =>
    cases other with
    | start => simp at calls
    | step other =>
      obtain ⟨rfl, rfl⟩ := ih other (List.tail_eq_of_cons_eq calls)
      exact ⟨rfl, rfl⟩
    | run _ _ => simp at calls
  | run _ ended ih =>
    cases other with
    | start => simp at calls
    | step _ => simp at calls
    | run other ended' =>
      obtain ⟨rfl, rfl⟩ := ih other (List.tail_eq_of_cons_eq calls)
      obtain ⟨_, halts⟩ := halts_of_run ended
      obtain ⟨_, halts'⟩ := halts_of_run ended'
      obtain ⟨-, answers, machines⟩ := halts.unique halts'
      rw [answers, machines]
      exact ⟨rfl, rfl⟩

theorem Reachable.start : Reachable m m :=
  ⟨[], .start⟩

theorem Reachable.step (reached : Reachable m₀ m) : Reachable m₀ m.step.next := by
  obtain ⟨log, history⟩ := reached
  exact ⟨_, history.step⟩

theorem Reachable.after (reached : Reachable m₀ m) (n : Nat) : Reachable m₀ (m.after n) := by
  induction n with
  | zero => exact reached
  | succ n ih => exact ih.step

theorem Reachable.proceeds {n : Nat} (reached : Reachable m₀ m) (proceeds : Proceeds n m m') :
    Reachable m₀ m' := by
  induction proceeds with
  | refl m => exact reached
  | step _ _ ih => exact ih reached.step

/-- Every fault that is reported, by a step or by a run, is the fault of one step. -/
theorem History.fault_of_step {o : Observation} {fault : Fault} (history : History m₀ log m)
    (listed : o ∈ log) (reported : o.answer.fault? = some fault) :
    ∃ v, Reachable m₀ v ∧ v.step.answer = .error fault := by
  induction history with
  | start => simp at listed
  | @step log m history ih =>
    rcases List.mem_cons.1 listed with rfl | listed
    · refine ⟨m, ⟨log, history⟩, ?_⟩
      cases ended : m.step.answer with
      | ok more => simp [observe, ended, Answer.fault?] at reported
      | error fault' => simpa [observe, ended, Answer.fault?] using reported
    · exact ih listed
  | @run log m _ r history ended ih =>
    rcases List.mem_cons.1 listed with rfl | listed
    · obtain ⟨n, halts⟩ := halts_of_run ended
      cases answered : r.answer with
      | ok output => simp [observe, answered, Answer.fault?] at reported
      | error failure =>
        rw [answered] at halts
        obtain ⟨stuck, proceeds, failed⟩ := halts.failed_step
        rw [observe, answered] at reported
        cases reported
        exact ⟨stuck, Reachable.proceeds ⟨log, history⟩ proceeds, failed⟩
    · exact ih listed

/-- What every step keeps, and the end of a run as well, holds of all machines that can be reached. -/
theorem Reachable.invariant {P : Machine → Prop} (start : P m₀)
    (step : ∀ m, P m → P m.step.next) (drained : ∀ m, P m → P m.drained)
    (stopped : ∀ m, P m → P m.stopped) (reached : Reachable m₀ m) : P m := by
  have run : ∀ {n m answer final}, Halts n m answer final → P m → P final := by
    intro n m answer final halts
    induction halts with
    | finished _ => exact fun before => drained _ (step _ before)
    | failed _ => exact fun before => stopped _ (step _ before)
    | step _ _ ih => exact fun before => ih (step _ before)
  obtain ⟨log, history⟩ := reached
  induction history with
  | start => exact start
  | step _ ih => exact step _ ih
  | run _ ended ih =>
    obtain ⟨_, halts⟩ := halts_of_run ended
    exact run halts ih

end Reachable

/-- Machines related so that no call tells them apart. -/
structure Bisimulation (R : Machine → Machine → Prop) : Prop where
  symm : ∀ {m m'}, R m m' → R m' m
  shown : ∀ {m m'} answer, R m m' → m.observe answer = m'.observe answer
  output : ∀ {m m'}, R m m' → m.output = m'.output
  answer : ∀ {m m'}, R m m' → m.step.answer = m'.step.answer
  next : ∀ {m m'}, R m m' → R m.step.next m'.step.next
  drained : ∀ {m m'}, R m m' → R m.drained m'.drained
  stopped : ∀ {m m'}, R m m' → R m.stopped m'.stopped

namespace Bisimulation

variable {R : Machine → Machine → Prop} {m₀ m₀' m m' final : Machine} {log : List Observation}
  {answer : Except Failure String} {n : Nat}

theorem simulation (alike : Bisimulation R) : Simulation (fun _ => False) R where
  output related := (alike.output related).symm
  step related _ := ⟨(alike.answer related).symm, alike.next related⟩

theorem halts (alike : Bisimulation R) (related : R m m') (halts : Halts n m answer final) :
    ∃ final', Halts n m' answer final' ∧ R final final' := by
  obtain ⟨v, v', same, ⟨rfl, halts'⟩ | ⟨rfl, halts'⟩⟩ :=
    alike.simulation.halts not_false related halts not_false
  · exact ⟨_, halts', alike.drained same⟩
  · exact ⟨_, halts', alike.stopped same⟩

theorem history (alike : Bisimulation R) (related : R m₀ m₀') (history : History m₀ log m) :
    ∃ m', History m₀' log m' ∧ R m m' := by
  induction history with
  | start => exact ⟨m₀', .start, related⟩
  | step _ ih =>
    obtain ⟨m', history, same⟩ := ih
    have next := alike.next same
    rw [alike.shown _ next, alike.answer same]
    exact ⟨_, history.step, next⟩
  | run _ ended ih =>
    obtain ⟨m', history, same⟩ := ih
    obtain ⟨_, halts⟩ := halts_of_run ended
    obtain ⟨final, halts', final_same⟩ := alike.halts same halts
    obtain ⟨fuel, r, ended', answers, rfl⟩ := halts'.run
    rw [alike.shown _ final_same, ← answers]
    exact ⟨_, history.run ended', final_same⟩

theorem runAfter_answer (alike : Bisimulation R) (related : R m m') (earlier earlier' : List Event)
    (fuel : Nat) :
    (m.runAfter earlier fuel).map Run.answer = (m'.runAfter earlier' fuel).map Run.answer := by
  have one_way : ∀ {m m' earlier earlier' answer}, R m m' →
      (m.runAfter earlier fuel).map Run.answer = some answer →
      (m'.runAfter earlier' fuel).map Run.answer = some answer := by
    intro m m' earlier earlier' answer related answered
    obtain ⟨r, ended, rfl⟩ := Option.map_eq_some_iff.1 answered
    obtain ⟨n, bound, halts⟩ := runAfter_iff_halts.1 ⟨r, ended, rfl, rfl⟩
    obtain ⟨final, halts', -⟩ := alike.halts related halts
    obtain ⟨r', ended', same, -⟩ := runAfter_iff_halts.2 ⟨n, bound, halts'⟩
    exact Option.map_eq_some_iff.2 ⟨r', ended', same⟩
  ext answer
  exact ⟨one_way related, one_way (alike.symm related)⟩

end Bisimulation

end TapeMachine

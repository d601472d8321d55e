import TapeMachine.Interpreter
import TapeMachine.Proofs.GuardedMachine

/-! Calls of the machine with guards. The tape and the counter of a machine only grow. So steps, runs and whole
histories that no guard has stopped are those of the machine without guards, and a guard stops them exactly
if the machine at their end would not be contained. -/
namespace TapeMachine

open Machine

/-! ## What only grows -/

section Growth

variable {indexBits n fuel : Nat} {m final : Machine} {answer : Except Failure String}

theorem Tape.size_le_moveRight (t : Tape) : t.size ≤ t.moveRight.size := by
  rw [moveRight_size]
  split <;> omega

theorem Tape.size_le_moveLeft (t : Tape) : t.size ≤ t.moveLeft.size := by
  rw [moveLeft_size]
  split <;> omega

theorem Store.size_le_perform {s s' : Store} {token : Token} (performed : s.perform token = .ok s') :
    s.tape.size ≤ s'.tape.size := by
  have modified : ∀ change : Cell → Cell, s.tape.size ≤ (s.tape.modify change).size := fun change =>
    Nat.le_of_eq (s.tape.modify_size change).symm
  cases token with
  | increment | decrement =>
    cases performed
    exact modified _
  | right =>
    cases performed
    exact s.tape.size_le_moveRight
  | left =>
    cases performed
    exact s.tape.size_le_moveLeft
  | output =>
    cases performed
    exact Nat.le_refl _
  | input =>
    simp only [Store.perform] at performed
    split at performed
    · simp at performed
    · cases performed
      exact modified _
  | loopStart | loopEnd | undefined => simp [Store.perform] at performed

theorem Machine.size_le_next (m : Machine) : m.tape.size ≤ m.step.next.tape.size := by
  have transition := m.transition
  generalize m.step = taken at transition
  cases transition with
  | perform _ _ _ performed => exact Store.size_le_perform performed
  | _ => exact Nat.le_refl _

theorem Machine.Contained.of_next (contained : m.step.next.Contained indexBits) :
    m.Contained indexBits :=
  contained.mono m.size_le_next m.steps_le_next.1

theorem Machine.Contained.of_after (contained : (m.after n).Contained indexBits) :
    m.Contained indexBits := by
  induction n with
  | zero => exact contained
  | succ n ih => exact ih contained.of_next

theorem Machine.size_le_after (m : Machine) (n : Nat) : m.tape.size ≤ (m.after n).tape.size := by
  induction n with
  | zero => exact Nat.le_refl _
  | succ n ih => exact Nat.le_trans ih (m.after n).size_le_next

theorem Machine.steps_after_le (m : Machine) (n : Nat) : (m.after n).steps ≤ m.steps + n := by
  induction n with
  | zero => exact Nat.le_refl _
  | succ n ih =>
    have next := (m.after n).steps_le_next.2
    rw [Machine.after]
    omega

theorem Halts.contained (halts : Halts n m answer final) (contained : final.Contained indexBits) :
    m.Contained indexBits := by
  induction halts with
  | finished _ | failed _ => exact .of_next ⟨contained.tape, contained.counter⟩
  | step _ _ ih => exact (ih contained).of_next

/-- The machine that so many calls of a run come to, if they end and if they do not. -/
def Machine.comesTo (m : Machine) (earlier : List Event) (fuel : Nat) : Machine :=
  ((m.runAfter earlier fuel).map Run.machine).getD (m.after fuel)

theorem Machine.Contained.next_of_comesTo {earlier : List Event}
    (contained : (m.comesTo earlier (fuel + 1)).Contained indexBits) :
    m.step.next.Contained indexBits := by
  rw [comesTo] at contained
  cases ran : m.runAfter earlier (fuel + 1) with
  | none =>
    rw [ran, ← after_step_next] at contained
    exact .of_after contained
  | some r =>
    have last : r.machine.Contained indexBits := by rwa [ran] at contained
    obtain ⟨n, _, halts⟩ := runAfter_iff_halts.1 ⟨r, ran, rfl, rfl⟩
    generalize r.answer = answer, r.machine = final at halts last
    cases halts with
    | finished _ | failed _ => exact ⟨last.tape, last.counter⟩
    | step _ rest => exact rest.contained last

end Growth

/-! ## Machines that have been loaded -/

section Load

variable {indexBits : Nat} {settings : Settings} {program input : String} {m : Machine}

theorem start?_eq (valid : settings.Valid) :
    start? indexBits settings program input =
      if InMemory indexBits settings.initialCells then some (start settings program input)
      else none := by
  rw [start?, Tape.blank?_eq valid]
  split <;> rfl

theorem load?_eq_ok_iff :
    load? indexBits settings program input = some (.ok m) ↔
      load settings program input = .ok m ∧ InMemory indexBits settings.initialCells := by
  rw [load_eq_ok_iff, load?]
  cases checked : settings.check with
  | error defect => simp [← settings.check_eq_ok_iff, checked]
  | ok passed =>
    have valid := settings.check_eq_ok_iff.1 checked
    simp only [start?_eq valid]
    by_cases held : InMemory indexBits settings.initialCells
    · simp [valid, held, eq_comm]
    · simp [held]

theorem contained_start_iff : (start settings program input).Contained indexBits ↔
    InMemory indexBits settings.initialCells := by
  have size : (start settings program input).tape.size = settings.initialCells := Array.size_replicate
  rw [← size]
  exact ⟨Contained.tape, fun held => ⟨held, Nat.two_pow_pos 64⟩⟩

end Load

/-! ## Calls that nothing stops -/

namespace Machine

variable (indexBits : Nat)

/-- The machine after so many calls of the guarded step, failed ones among them. -/
def after? (m : Machine) : Nat → Option Machine
  | 0 => some m
  | n + 1 => do
    let taken ← (← m.after? n).step? indexBits
    return taken.next

/-- Without guards the run ends so. With guards it ends so if the machine at its end is contained, and is
stopped if it is not. -/
structure RunsTo (fuel : Nat) (m : Machine) (r : Run) : Prop where
  free : m.run fuel = some r
  guarded : m.run? indexBits fuel =
    if r.machine.Contained indexBits then some (some r) else none

end Machine

theorem Machine.RunsTo.not_stopped {indexBits fuel : Nat} {m : Machine} {r : Run}
    (runs : m.RunsTo indexBits fuel r) (contained : r.machine.Contained indexBits) :
    m.run? indexBits fuel = some (some r) := by
  have guarded := runs.guarded
  rwa [if_pos contained] at guarded

/-- With a counter that is a word, the length of the last tape decides. -/
theorem Machine.RunsTo.decided {indexBits fuel : Nat} {m : Machine} {r : Run} {length : Int}
    (runs : m.RunsTo indexBits fuel r) (size : (r.machine.tape.size : Int) = length)
    (counted : 8 * length < 2 ^ (indexBits - 1) → r.machine.steps < 2 ^ 64) :
    (8 * length < 2 ^ (indexBits - 1) → m.run? indexBits fuel = some (some r)) ∧
      (2 ^ (indexBits - 1) ≤ 8 * length → m.run? indexBits fuel = none) := by
  constructor
  · exact fun enough => runs.not_stopped ⟨(inMemory_iff_of_eq size).2 enough, counted enough⟩
  · intro lacking
    have beyond : ¬r.machine.Contained indexBits := fun contained =>
      Int.not_lt.2 lacking ((inMemory_iff_of_eq size).1 contained.tape)
    have guarded := runs.guarded
    rwa [if_neg beyond] at guarded

/-- Calls of the guarded machine lead there, and no guard has stopped one of them. -/
inductive Reachable? (indexBits : Nat) (m₀ : Machine) : Machine → Prop
  | start : Reachable? indexBits m₀ m₀
  | step {m : Machine} {taken : Step} : Reachable? indexBits m₀ m →
      m.step? indexBits = some taken → Reachable? indexBits m₀ taken.next
  | run {m : Machine} {fuel : Nat} {r : Run} : Reachable? indexBits m₀ m →
      m.run? indexBits fuel = some (some r) → Reachable? indexBits m₀ r.machine

section Reached

variable {indexBits : Nat} {settings : Settings} {program input : String} {m m₀ : Machine} {r : Run}
  {fuel : Nat}

/-- A text fits in memory, so its size is a signed word. -/
theorem Reachable.step?_eq (valid : settings.Valid) (held : program.utf8ByteSize < 2 ^ (indexBits - 1))
    (reached : Reachable (Machine.start settings program input) m) (contained : m.Contained indexBits) :
    m.step? indexBits = m.step.contained? indexBits :=
  Machine.step?_eq valid (reached.bounded valid) reached.stacked
    (Nat.lt_of_le_of_lt (length_tokenize_le program) held) contained

theorem Reachable.after?_eq (valid : settings.Valid)
    (held : program.utf8ByteSize < 2 ^ (indexBits - 1))
    (reached : Reachable (Machine.start settings program input) m) {n : Nat}
    (contained : (m.after n).Contained indexBits) : m.after? indexBits n = some (m.after n) := by
  induction n with
  | zero => rfl
  | succ n ih =>
    have before : (m.after n).Contained indexBits := contained.of_next
    have stepped := (reached.after n).step?_eq valid held before
    rw [contained?_eq contained] at stepped
    rw [after?, ih before]
    simp only [Option.bind_eq_bind, Option.bind_some, stepped]
    rfl

theorem Reachable.after?_of_room (valid : settings.Valid)
    (held : program.utf8ByteSize < 2 ^ (indexBits - 1))
    (reached : Reachable (Machine.start settings program input) m) {n : Nat}
    (room : InMemory indexBits (m.after n).tape.size) (counted : m.steps + n < 2 ^ 64) :
    m.after? indexBits n = some (m.after n) :=
  reached.after?_eq valid held ⟨room, Nat.lt_of_le_of_lt (m.steps_after_le n) counted⟩

/-- A run with guards is the run without, if the machine that it comes to is contained. -/
theorem Reachable.runAfter?_eq (valid : settings.Valid)
    (held : program.utf8ByteSize < 2 ^ (indexBits - 1))
    (reached : Reachable (Machine.start settings program input) m) (contained : m.Contained indexBits)
    (earlier : List Event) (fuel : Nat) :
    m.runAfter? indexBits earlier fuel =
      if (m.comesTo earlier fuel).Contained indexBits then some (m.runAfter earlier fuel) else none := by
  induction fuel generalizing m earlier with
  | zero => exact (if_pos contained).symm
  | succ fuel ih =>
    rw [runAfter?, reached.step?_eq valid held contained]
    by_cases next : m.step.next.Contained indexBits
    · rw [contained?_eq next, comesTo, runAfter, ← after_step_next]
      simp only [Option.bind_eq_bind, Option.bind_some]
      cases m.step.answer with
      | error fault => exact (if_pos ⟨next.tape, next.counter⟩).symm
      | ok more =>
        cases more with
        | false => exact (if_pos ⟨next.tape, next.counter⟩).symm
        | true => exact ih reached.step next _
    · rw [Step.contained?, if_neg next, if_neg (mt (·.next_of_comesTo) next)]
      rfl

theorem Reachable.runAfter?_of_ended (valid : settings.Valid)
    (held : program.utf8ByteSize < 2 ^ (indexBits - 1))
    (reached : Reachable (Machine.start settings program input) m) (contained : m.Contained indexBits)
    {earlier : List Event} (ran : m.runAfter earlier fuel = some r) :
    m.runAfter? indexBits earlier fuel =
      if r.machine.Contained indexBits then some (some r) else none := by
  rw [reached.runAfter?_eq valid held contained, comesTo, ran]
  rfl

theorem Reachable.runsTo (valid : settings.Valid) (held : program.utf8ByteSize < 2 ^ (indexBits - 1))
    (reached : Reachable (Machine.start settings program input) m) (contained : m.Contained indexBits)
    (ran : m.run fuel = some r) : m.RunsTo indexBits fuel r :=
  ⟨ran, reached.runAfter?_of_ended valid held contained ran⟩

theorem runsTo_of_load (loaded : load? indexBits settings program input = some (.ok m))
    (held : program.utf8ByteSize < 2 ^ (indexBits - 1)) (ran : m.run fuel = some r) :
    m.RunsTo indexBits fuel r := by
  obtain ⟨loaded, allocated⟩ := load?_eq_ok_iff.1 loaded
  obtain ⟨valid, rfl⟩ := load_eq_ok_iff.1 loaded
  exact Reachable.start.runsTo valid held (contained_start_iff.2 allocated) ran

/-- A guarded run that has a result has the result of the run without guards. -/
theorem Reachable.runAfter_of_guarded (valid : settings.Valid)
    (held : program.utf8ByteSize < 2 ^ (indexBits - 1))
    (reached : Reachable (Machine.start settings program input) m) (contained : m.Contained indexBits)
    {earlier : List Event} (ran : m.runAfter? indexBits earlier fuel = some (some r)) :
    m.runAfter earlier fuel = some r ∧ r.machine.Contained indexBits := by
  rw [reached.runAfter?_eq valid held contained, Option.ite_none_right_eq_some,
    Option.some.injEq] at ran
  obtain ⟨last, ended⟩ := ran
  rw [comesTo, ended] at last
  exact ⟨ended, last⟩

/-- Guards add no machines to those that can be reached. -/
theorem Reachable?.reachable (valid : settings.Valid)
    (held : program.utf8ByteSize < 2 ^ (indexBits - 1))
    (allocated : InMemory indexBits settings.initialCells)
    (reached : Reachable? indexBits (Machine.start settings program input) m) :
    Reachable (Machine.start settings program input) m ∧ m.Contained indexBits := by
  induction reached with
  | start => exact ⟨.start, contained_start_iff.2 allocated⟩
  | @step m taken _ stepped ih =>
    obtain ⟨before, contained⟩ := ih
    rw [before.step?_eq valid held contained, Step.contained?] at stepped
    split at stepped
    · cases stepped
      exact ⟨before.step, ‹_›⟩
    · simp at stepped
  | run _ ran ih =>
    obtain ⟨⟨log, history⟩, contained⟩ := ih
    obtain ⟨ended, last⟩ := Reachable.runAfter_of_guarded valid held ⟨log, history⟩ contained ran
    exact ⟨⟨_, history.run ended⟩, last⟩

/-- Steps that lead to a contained machine are taken with guards as well. -/
theorem Reachable?.after (loaded : load? indexBits settings program input = some (.ok m))
    (held : program.utf8ByteSize < 2 ^ (indexBits - 1)) {n : Nat}
    (contained : (m.after n).Contained indexBits) : Reachable? indexBits m (m.after n) := by
  obtain ⟨valid, rfl⟩ := load_eq_ok_iff.1 (load?_eq_ok_iff.1 loaded).1
  induction n with
  | zero => exact .start
  | succ n ih =>
    have before := contained.of_next
    have stepped := (Reachable.start.after n).step?_eq valid held before
    rw [contained?_eq contained] at stepped
    exact .step (ih before) stepped

end Reached

/-- The interpreter with guards gives the result of the one without, if the machine at the end is
contained. -/
theorem Interpreter.interpret?_eq {indexBits fuel : Nat} {interpreter : Interpreter}
    {program input : String} {r : Run} (held : program.utf8ByteSize < 2 ^ (indexBits - 1))
    (ran : interpreter.interpret fuel program input = some r) :
    interpreter.interpret? indexBits fuel program input =
      if r.machine.Contained indexBits then some (some r) else none := by
  rw [interpret?, start?_eq interpreter.valid]
  by_cases allocated : InMemory indexBits interpreter.settings.initialCells
  · rw [if_pos allocated]
    exact Reachable.start.runAfter?_of_ended interpreter.valid held
      (contained_start_iff.2 allocated) ran
  · have beyond : ¬r.machine.Contained indexBits := by
      intro last
      obtain ⟨_, _, halts⟩ := runAfter_iff_halts.1 ⟨r, ran, rfl, rfl⟩
      exact allocated (contained_start_iff.1 (halts.contained last))
    rw [if_neg allocated, if_neg beyond]
    rfl

end TapeMachine

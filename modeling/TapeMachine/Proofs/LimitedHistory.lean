import TapeMachine.Proofs.Ending
import TapeMachine.Proofs.GuardedRun
import TapeMachine.Proofs.StepBudget

/-! What is done with a machine that has a limit. However it is called, its counter stays within the
limit, and every step that succeeds is counted or ends the work. So a run takes as many steps as the limit
has left at most, and one more, and every run ends. As the counter stays a word, only a tape that is too
long can stop it before. -/
namespace TapeMachine

open Machine

section Reachable

variable {indexBits n : Nat} {settings : Settings} {program input : String} {limit : UInt64}
  {m m' : Machine}

theorem Reachable.steps_le_limit (valid : settings.Valid) (limited : settings.stepLimit = some limit)
    (reached : Reachable (Machine.start settings program input) m) : m.steps ≤ limit.toNat := by
  obtain ⟨-, -, kept, allowed, -⟩ := reached.bounded valid
  exact allowed limit (kept.trans limited)

/-- The end of the program is the one step that succeeds and costs nothing. -/
theorem Reachable.counted_or_ended {more : Bool}
    (reached : Reachable (Machine.start settings program input) m)
    (succeeded : m.step.answer = .ok more) :
    m.step.next.steps = m.steps + 1 ∨ m.step.next.frames = [] := by
  rcases reached.ends_or_refused_or_counted with ⟨ended, -⟩ | ⟨_, -, refused⟩ | ⟨-, counted⟩
  · exact .inr (m.step_answer_eq_ok_false_iff.1 ended)
  · rw [succeeded] at refused
    cases refused
  · exact .inl counted

/-- Steps that all leave something to run are all counted. -/
theorem Reachable.proceeds_le_limit (valid : settings.Valid)
    (limited : settings.stepLimit = some limit)
    (reached : Reachable (Machine.start settings program input) m) (proceeds : Proceeds n m m') :
    m.steps + n ≤ limit.toNat := by
  rw [← reached.steps_of_proceeds proceeds]
  exact (reached.proceeds proceeds).steps_le_limit valid limited

theorem Reachable.run_ends (valid : settings.Valid) (limited : settings.stepLimit = some limit)
    (reached : Reachable (Machine.start settings program input) m) :
    ∃ r, m.run (limit.toNat - m.steps + 1) = some r := by
  rcases proceeds_or_halts m (limit.toNat - m.steps + 1) with proceeds | ⟨n, short, _, _, halts⟩
  · have within := reached.proceeds_le_limit valid limited proceeds
    omega
  · obtain ⟨r, ended, -⟩ := runAfter_iff_halts.2 ⟨n, short, halts⟩
    exact ⟨r, ended⟩

theorem Reachable.contained_iff (valid : settings.Valid) (limited : settings.stepLimit = some limit)
    (reached : Reachable (Machine.start settings program input) m) :
    m.Contained indexBits ↔ InMemory indexBits m.tape.size :=
  ⟨Contained.tape, fun room =>
    ⟨room, Nat.lt_of_le_of_lt (reached.steps_le_limit valid limited) limit.toNat_lt⟩⟩

end Reachable

/-- Under a limit, whatever steps and runs have been called, failed ones among them: the counter is not
beyond the limit, a step that succeeds adds one to it or leaves nothing to run, and a run ends after one
step more than the limit has left, if not before. A step or a run is stopped exactly if there is no memory
for the tape that it would end with. -/
theorem limit_bounds_history {indexBits : Nat} {settings : Settings} {program input : String}
    {m : Machine} {limit : UInt64} (loaded : load? indexBits settings program input = some (.ok m))
    (held : program.utf8ByteSize < 2 ^ (indexBits - 1)) (limited : settings.stepLimit = some limit)
    (v : Machine) (reached : Reachable? indexBits m v) :
    v.steps ≤ limit.toNat ∧
      (v.step? indexBits =
        if InMemory indexBits v.step.next.tape.size then some v.step else none) ∧
      (∀ more, v.step.answer = .ok more →
        v.step.next.steps = v.steps + 1 ∨ v.step.next.frames = []) ∧
      let fuel := limit.toNat - v.steps + 1
      ∃ r, v.run fuel = some r ∧ v.run? indexBits fuel =
        if InMemory indexBits r.machine.tape.size then some (some r) else none := by
  obtain ⟨loaded, allocated⟩ := load?_eq_ok_iff.1 loaded
  obtain ⟨valid, rfl⟩ := load_eq_ok_iff.1 loaded
  obtain ⟨reached, contained⟩ := reached.reachable valid held allocated
  refine ⟨reached.steps_le_limit valid limited, ?_, fun _ => reached.counted_or_ended, ?_⟩
  · rw [reached.step?_eq valid held contained, Step.contained?]
    exact if_congr (reached.step.contained_iff valid limited) rfl rfl
  · obtain ⟨r, ran⟩ := reached.run_ends valid limited
    obtain ⟨log, history⟩ := reached
    have last : Reachable (start settings program input) r.machine := ⟨_, history.run ran⟩
    refine ⟨r, ran, (Reachable.runsTo valid held ⟨log, history⟩ contained ran).guarded.trans ?_⟩
    exact if_congr (last.contained_iff valid limited) rfl rfl

/-- A loop without an end, behind a bracket that fails and is counted too. The limit has six steps left
then, and the run needs the seventh. -/
theorem endless_loop_bounded :
    let settings : Settings := { stepLimit := some 7 }
    let m := Machine.start settings "]+[]" ""
    let v := m.after 1
    load? 64 settings "]+[]" "" = some (.ok m) ∧ Reachable? 64 m v ∧
      m.step.answer = .error .invalidSyntax ∧ v.steps = 1 ∧ v.step? 64 = some v.step ∧
      v.step.next.steps = v.steps + 1 ∧ v.run? 64 6 = some none ∧
      ∃ r, v.run? 64 7 = some (some r) := by
  intro settings m v
  have loaded : load? 64 settings "]+[]" "" = some (.ok m) := rfl
  have held : "]+[]".utf8ByteSize < 2 ^ (64 - 1) := by decide
  have reached : Reachable? 64 m v := .after loaded held (by decide)
  have failed : m.step.answer = .error .invalidSyntax := by decide
  have succeeded : v.step.answer = .ok true := by decide
  have running : v.step.next.frames ≠ [] := by decide
  have unfinished : v.run? 64 6 = some none := rfl
  have ended : (v.run 7).map (fun r => r.machine.tape.size) = some 10 := by decide
  obtain ⟨r', seen, size⟩ := Option.map_eq_some_iff.1 ended
  obtain ⟨-, stepped, counted, r, ran, guarded⟩ := limit_bounds_history loaded held rfl v reached
  have same : r' = r := Option.some_inj.1 (seen.symm.trans ran)
  rw [if_pos (by decide)] at stepped
  rw [← same, size, if_pos (by decide), same] at guarded
  exact ⟨loaded, reached, failed, rfl, stepped, (counted true succeeded).resolve_right running,
    unfinished, r, guarded⟩

/-- One step to the right, for which there is not enough memory. -/
theorem oversized_chunk_stops_limited_run :
    let settings : Settings := { initialCells := 1, growthChunk := 2 ^ 60, stepLimit := some 5 }
    let m := Machine.start settings ">" ""
    load? 64 settings ">" "" = some (.ok m) ∧ m.run? 64 (5 - m.steps + 1) = none := by
  intro settings m
  exact ⟨rfl, by decide⟩

end TapeMachine

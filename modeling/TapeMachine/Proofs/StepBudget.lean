import TapeMachine.Proofs.Conservation
import TapeMachine.Proofs.JumpMachine
import TapeMachine.Proofs.Limit

/-! What a limit on the steps does to a run. A run with as many steps as the limit allows is the run
without a limit; any other is that run up to its last allowed step, and then fails. -/
namespace TapeMachine

open Machine

theorem Store.perform_ne_stepLimitExceeded (s : Store) (token : Token) (limit : UInt64) :
    s.perform token ≠ .error (.stepLimitExceeded limit) := by
  cases token with
  | input =>
    rw [Store.perform]
    cases s.input <;> simp
  | _ => simp [Store.perform]

/-- A step is refused only for a limit that is used up, and then nothing changes. -/
theorem Transition.of_exceeded {m : Machine} {taken : Step} {limit : UInt64}
    (transition : Transition m taken) (exceeded : taken.answer = .error (.stepLimitExceeded limit)) :
    m.stepLimit = some limit ∧ limit.toNat ≤ m.steps ∧ taken.next = m := by
  cases transition with
  | exhausted _ limited spent =>
    rw [Except.error.injEq, Fault.stepLimitExceeded.injEq] at exceeded
    subst exceeded
    exact ⟨limited, spent, rfl⟩
  | refuse _ _ _ refused =>
    rw [Except.error.injEq] at exceeded
    subst exceeded
    exact absurd refused (m.store.perform_ne_stepLimitExceeded _ _)
  | stray =>
    simp only [Except.error.injEq] at exceeded
    split at exceeded <;> simp at exceeded
  | _ => simp at exceeded

section Reachable

variable {settings : Settings} {program input : String} {m m' final : Machine} {n : Nat}
  {answer : Except Failure String}

/-- A step that can be taken ends the program, is refused by the limit, or counts. -/
theorem Reachable.ends_or_refused_or_counted
    (reached : Reachable (Machine.start settings program input) m) :
    m.step.answer = .ok false ∧ m.step.next.steps = m.steps ∨
      (∃ limit, m.stepLimit = some limit ∧ m.step.answer = .error (.stepLimitExceeded limit)) ∨
      m.Busy ∧ m.step.next.steps = m.steps + 1 := by
  have transition := m.transition
  generalize m.step = taken at transition
  cases transition with
  | idle => exact .inl ⟨rfl, rfl⟩
  | finish frames =>
    obtain ⟨_, _, placed⟩ := reached.placed frames
    obtain ⟨rfl, -⟩ := placed.program_end
    exact .inl ⟨rfl, rfl⟩
  | exhausted _ limited _ => exact .inr (.inl ⟨_, limited, rfl⟩)
  | perform frames | refuse frames | skip frames | enter frames | unclosed frames | stray frames =>
    exact .inr (.inr ⟨⟨_, _, _, _, _, frames, by simp⟩, rfl⟩)
  | leave frames | again frames =>
    exact .inr (.inr ⟨⟨_, _, _, _, _, frames, fun _ => rfl⟩, rfl⟩)

theorem Reachable.steps_of_proceeds (reached : Reachable (Machine.start settings program input) m)
    (proceeds : Proceeds n m m') : m'.steps = m.steps + n := by
  induction proceeds with
  | refl m => rfl
  | @step n m m' more _ ih =>
    have counted := ih reached.step
    rcases reached.ends_or_refused_or_counted with ⟨ended, -⟩ | ⟨_, -, refused⟩ | ⟨-, next⟩
    · simp [more] at ended
    · simp [more] at refused
    · omega

theorem Proceeds.stepLimit_eq (proceeds : Proceeds n m m') : m'.stepLimit = m.stepLimit := by
  induction proceeds with
  | refl m => rfl
  | @step _ m _ _ _ ih => exact ih.trans m.transition.stepLimit_next

/-- Without a limit no run exceeds one. -/
theorem Halts.not_exceeded (halts : Halts n m answer final) (unlimited : m.stepLimit = none)
    (limit : UInt64) (output : String) : answer ≠ .error ⟨.stepLimitExceeded limit, output⟩ := by
  rintro rfl
  obtain ⟨stuck, proceeds, exceeded⟩ := halts.failed_step
  have limited := (stuck.transition.of_exceeded exceeded).1
  rw [proceeds.stepLimit_eq, unlimited] at limited
  simp at limited

/-- A run that goes on beyond so many steps ends there under a limit. -/
theorem Reachable.halts_at_limit {limit : UInt64}
    (reached : Reachable (Machine.start settings program input) m) (unlimited : m.stepLimit = none)
    (room : m.steps + n = limit.toNat)
    (outlasts : ∀ k answer final, Halts k m answer final → limit.toNat < final.steps) :
    (m.after n).steps = limit.toNat ∧ Proceeds n m (m.after n) ∧
      Halts n (m.withLimit (some limit)) (.error ⟨.stepLimitExceeded limit, (m.after n).output⟩)
        ((m.after n).withLimit (some limit)).stopped := by
  rcases proceeds_or_halts m n with proceeds | ⟨k, short, answer, final, halts⟩
  · have counted := reached.steps_of_proceeds proceeds
    rw [room] at counted
    have busy : (m.after n).Busy := by
      rcases (reached.proceeds proceeds).ends_or_refused_or_counted with
        ⟨ended, same⟩ | ⟨_, limited, -⟩ | ⟨busy, -⟩
      · have beyond := outlasts _ _ _ (proceeds.halts (.finished ended))
        simp only [drained] at beyond
        omega
      · rw [proceeds.stepLimit_eq, unlimited] at limited
        simp at limited
      · exact busy
    have stopped : ((m.after n).withLimit (some limit)).step =
        ⟨.error (.stepLimitExceeded limit), (m.after n).withLimit (some limit), none⟩ :=
      step_of_transition (.exhausted busy rfl (Nat.le_of_eq counted.symm))
    have followed := proceeds.withLimit (allows_some_iff.2 (Nat.le_of_eq counted))
    have failed := Halts.failed (congrArg Step.answer stopped)
    rw [stopped] at failed
    exact ⟨counted, proceeds, followed.halts failed⟩
  · have early := halts.steps_le.2
    have late := outlasts k answer final halts
    omega

end Reachable

/-- The run ended at the limit, with what the unlimited machine has after as many steps. -/
structure CutOff (limit : UInt64) (free : Machine) (r : Run) : Prop where
  answer : r.answer = .error ⟨.stepLimitExceeded limit, (free.after limit.toNat).output⟩
  steps : r.machine.steps = limit.toNat
  tape : r.machine.tape = (free.after limit.toNat).tape
  input : r.machine.input = (free.after limit.toNat).input
  counted : (free.after limit.toNat).steps = limit.toNat

section Start

variable {settings : Settings} {program input : String} {free m : Machine} {limit more : UInt64}
  {n fuel : Nat} {answer : Except Failure String} {final : Machine}

theorem load_withLimit (limit : UInt64)
    (loaded : load { settings with stepLimit := none } program input = .ok free) :
    load { settings with stepLimit := some limit } program input =
      .ok (free.withLimit (some limit)) := by
  obtain ⟨valid, rfl⟩ := load_eq_ok_iff.1 loaded
  exact load_eq_ok_iff.2 ⟨⟨valid.width_pos, valid.width_le, valid.cells_pos, valid.chunk_pos⟩, rfl⟩

/-- What is pending when a run begins comes first in what it hands over. -/
theorem Halts.output_extends (halts : Halts n m answer final) :
    ∃ rest, handedOver answer = m.output ++ rest := by
  refine ⟨String.ofList ((m.trail n).flatMap emitted), ?_⟩
  rw [← String.toList_inj, String.toList_append, String.toList_ofList]
  exact halts.channels.2.1

theorem Halts.run_withLimit (halts : Halts n free answer final) (short : n < fuel)
    (unlimited : free.stepLimit = none) (enough : final.steps ≤ limit.toNat) :
    ∃ r, (free.withLimit (some limit)).run fuel = some r ∧ r.answer = answer ∧
      r.machine = final.withLimit (some limit) :=
  runAfter_iff_halts.2
    ⟨n, short, halts.withLimit (allows_some_iff.2 enough) (halts.not_exceeded unlimited)⟩

/-- The limit is met if the run without one goes on beyond it, for ever or not. -/
theorem exists_cutOff
    (loaded : load { settings with stepLimit := none } program input = .ok free)
    (outlasts : ∀ k answer final, Halts k free answer final → limit.toNat < final.steps) :
    ∃ fuel r, (free.withLimit (some limit)).run fuel = some r ∧ CutOff limit free r := by
  obtain ⟨-, rfl⟩ := load_eq_ok_iff.1 loaded
  obtain ⟨counted, -, halts⟩ :=
    Reachable.start.halts_at_limit rfl (Nat.zero_add limit.toNat) outlasts
  obtain ⟨fuel, r, ran, answer, machine⟩ := halts.run
  refine ⟨fuel, r, ran, answer, ?_, ?_, ?_, counted⟩
  · rw [machine]
    exact counted
  · rw [machine]
    rfl
  · rw [machine]
    rfl

/-- Under a larger limit the machine passes through what a smaller one leaves. -/
theorem output_extends_of_le
    (loaded : load { settings with stepLimit := none } program input = .ok free)
    (larger : limit ≤ more) {fuel fuel' : Nat} {r r' : Run}
    (ran : (free.withLimit (some limit)).run fuel = some r)
    (ran' : (free.withLimit (some more)).run fuel' = some r') :
    ∃ rest, handedOver r'.answer = handedOver r.answer ++ rest := by
  obtain ⟨-, rfl⟩ := load_eq_ok_iff.1 loaded
  rw [UInt64.le_iff_toNat_le] at larger
  obtain ⟨n, halts⟩ := halts_of_run ran
  obtain ⟨n', halts'⟩ := halts_of_run ran'
  by_cases ends : ∃ k answer final,
      Halts k (start { settings with stepLimit := none } program input) answer final ∧
        final.steps ≤ limit.toNat
  · obtain ⟨k, answer, final, whole, enough⟩ := ends
    have granted := whole.not_exceeded rfl
    have one := whole.withLimit (allows_some_iff.2 enough) granted
    have other := whole.withLimit (allows_some_iff.2 (Nat.le_trans enough larger)) granted
    refine ⟨"", ?_⟩
    rw [(halts.unique one).2.1, (halts'.unique other).2.1, String.append_empty]
  · obtain ⟨counted, proceeds, cut⟩ :=
      Reachable.start.halts_at_limit rfl (Nat.zero_add limit.toNat)
        fun k answer final whole => Nat.lt_of_not_le fun enough =>
          ends ⟨k, answer, final, whole, enough⟩
    have followed := proceeds.withLimit (allows_some_iff.2 (Nat.le_trans (Nat.le_of_eq counted) larger))
    obtain ⟨left, -, rest⟩ := followed.rest_halts halts'
    rw [(halts.unique cut).2.1]
    exact rest.output_extends

/-- A run that needs no more steps than the limit allows is the run without a limit; any other, be it
one that would not end, fails at the limit with what the run without a limit has after as many steps.
So a smaller limit gives the beginning of the output that a larger one gives. -/
theorem limit_cuts_run
    (loaded : load { settings with stepLimit := none } program input = .ok free) (limit : UInt64) :
    ∃ m, load { settings with stepLimit := some limit } program input = .ok m ∧
      (∀ fuel r, free.run fuel = some r → r.machine.steps ≤ limit.toNat →
        ∃ r', m.run fuel = some r' ∧ r'.answer = r.answer ∧
          r'.machine = r.machine.withLimit (some limit)) ∧
      (∀ fuel r, free.run fuel = some r → limit.toNat < r.machine.steps →
        ∃ fuel' r', m.run fuel' = some r' ∧ CutOff limit free r') ∧
      ((∀ fuel, free.run fuel = none) → ∃ fuel r, m.run fuel = some r ∧ CutOff limit free r) ∧
      ∀ more m', limit ≤ more →
        load { settings with stepLimit := some more } program input = .ok m' →
        ∀ fuel fuel' r r', m.run fuel = some r → m'.run fuel' = some r' →
          ∃ rest, handedOver r'.answer = handedOver r.answer ++ rest := by
  have unlimited : free.stepLimit = none := by
    obtain ⟨-, rfl⟩ := load_eq_ok_iff.1 loaded
    rfl
  refine ⟨_, load_withLimit limit loaded, ?_, ?_, ?_, ?_⟩
  · intro fuel r ran enough
    obtain ⟨n, short, halts⟩ := runAfter_iff_halts.1 ⟨r, ran, rfl, rfl⟩
    exact halts.run_withLimit short unlimited enough
  · intro fuel r ran beyond
    obtain ⟨n, halts⟩ := halts_of_run ran
    refine exists_cutOff loaded fun k answer final whole => ?_
    obtain ⟨-, -, rfl⟩ := halts.unique whole
    exact beyond
  · intro endless
    refine exists_cutOff loaded fun k answer final whole => ?_
    obtain ⟨fuel, r, ran, -⟩ := whole.run
    simp [endless fuel] at ran
  · intro more m' larger loaded' fuel fuel' r r' ran ran'
    rw [load_withLimit more loaded, Except.ok.injEq] at loaded'
    subst loaded'
    exact output_extends_of_le loaded larger ran ran'

/-- Three steps: the third `output` is refused by a limit of two, and no step by a limit of three. -/
theorem three_outputs_cut :
    let free := start { cellBits := 16 } "..." ""
    load { cellBits := 16 } "..." "" = .ok free ∧
      (∃ r, (free.withLimit (some 3)).run 4 = some r ∧ r.answer = .ok "\x00\x00\x00") ∧
      ∃ fuel r, (free.withLimit (some 2)).run fuel = some r ∧ CutOff 2 free r := by
  intro free
  have loaded : load { cellBits := 16 } "..." "" = .ok free := rfl
  have ended : (free.run 4).map (fun r => (r.answer, r.machine.steps)) =
      some (.ok "\x00\x00\x00", 3) := rfl
  obtain ⟨r, ran, shown⟩ := Option.map_eq_some_iff.1 ended
  obtain ⟨answer, steps⟩ := Prod.mk.inj shown
  obtain ⟨m, loaded₃, same, -⟩ := @limit_cuts_run { cellBits := 16 } _ _ _ loaded 3
  obtain ⟨m', loaded₂, -, cut, -⟩ := @limit_cuts_run { cellBits := 16 } _ _ _ loaded 2
  cases loaded₃
  cases loaded₂
  obtain ⟨r', ran', answer', -⟩ := same 4 r ran (by rw [steps]; decide)
  exact ⟨loaded, ⟨r', ran', answer'.trans answer⟩, cut 4 r ran (by rw [steps]; decide)⟩

end Start

end TapeMachine

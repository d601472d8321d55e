import TapeMachine.Proofs.History
import TapeMachine.Proofs.Transition

/-! The same machine under another limit on its steps. A limit refuses steps and does nothing else, so
what was done under one limit is done under any other that allows as many steps. -/
namespace TapeMachine

open Machine

/-- So many steps can be counted under the limit. -/
def Allows (limit : Option UInt64) (steps : Nat) : Prop :=
  ∀ l, limit = some l → steps ≤ l.toNat

theorem allows_none (steps : Nat) : Allows none steps := by
  intro l limited
  cases limited

theorem allows_some_iff {l : UInt64} {steps : Nat} : Allows (some l) steps ↔ steps ≤ l.toNat := by
  simp [Allows]

theorem Allows.mono {limit : Option UInt64} {steps more : Nat} (allowed : Allows limit more)
    (fewer : steps ≤ more) : Allows limit steps :=
  fun l limited => Nat.le_trans fewer (allowed l limited)

theorem Transition.steps_next {m : Machine} {taken : Step} (transition : Transition m taken) :
    taken.next.steps = m.steps ∨ taken.next.steps = m.steps + 1 := by
  cases transition with
  | idle | finish | exhausted => exact .inl rfl
  | _ => exact .inr rfl

theorem Machine.steps_le_next (m : Machine) :
    m.steps ≤ m.step.next.steps ∧ m.step.next.steps ≤ m.steps + 1 := by
  have next := m.transition.steps_next
  omega

theorem Transition.stepLimit_next {m : Machine} {taken : Step} (transition : Transition m taken) :
    taken.next.stepLimit = m.stepLimit := by
  cases transition <;> rfl

theorem Proceeds.steps_le {n : Nat} {m m' : Machine} (proceeds : Proceeds n m m') :
    m.steps ≤ m'.steps := by
  induction proceeds with
  | refl m => exact Nat.le_refl _
  | @step _ m _ _ _ ih => exact Nat.le_trans m.steps_le_next.1 ih

theorem Halts.steps_le {n : Nat} {m final : Machine} {answer : Except Failure String}
    (halts : Halts n m answer final) : m.steps ≤ final.steps ∧ final.steps ≤ m.steps + n + 1 := by
  induction halts with
  | @finished m _ | @failed m _ _ => exact m.steps_le_next
  | @step n m _ _ _ _ ih =>
    have next := m.steps_le_next
    omega

namespace Machine

def withLimit (m : Machine) (limit : Option UInt64) : Machine :=
  { m with stepLimit := limit }

end Machine

section WithLimit

variable {m m' final : Machine} {limit : Option UInt64} {n : Nat} {answer : Except Failure String}

theorem hasBudget_of_allows (allowed : Allows limit (m.steps + 1)) :
    (m.withLimit limit).HasBudget :=
  fun l limited => allowed l limited

/-- Only a limit refuses steps, so a step that it did not refuse is taken under any other limit that
allows it. -/
theorem Transition.withLimit {taken : Step} (transition : Transition m taken)
    (allowed : Allows limit taken.next.steps)
    (granted : ∀ l, taken.answer ≠ .error (.stepLimitExceeded l)) :
    Transition (m.withLimit limit) ⟨taken.answer, taken.next.withLimit limit, taken.event⟩ := by
  cases transition with
  | idle ended => exact .idle ended
  | finish frames => exact .finish frames
  | exhausted _ _ _ => exact absurd rfl (granted _)
  | perform frames _ plain performed =>
    exact .perform frames (hasBudget_of_allows allowed) plain performed
  | refuse frames _ plain refused => exact .refuse frames (hasBudget_of_allows allowed) plain refused
  | skip frames _ found zero => exact .skip frames (hasBudget_of_allows allowed) found zero
  | enter frames _ found nonzero => exact .enter frames (hasBudget_of_allows allowed) found nonzero
  | unclosed frames _ unclosed => exact .unclosed frames (hasBudget_of_allows allowed) unclosed
  | stray frames _ => exact .stray frames (hasBudget_of_allows allowed)
  | leave frames _ zero => exact .leave frames (hasBudget_of_allows allowed) zero
  | again frames _ nonzero => exact .again frames (hasBudget_of_allows allowed) nonzero

theorem step_withLimit (allowed : Allows limit m.step.next.steps)
    (granted : ∀ l, m.step.answer ≠ .error (.stepLimitExceeded l)) :
    (m.withLimit limit).step = ⟨m.step.answer, m.step.next.withLimit limit, m.step.event⟩ :=
  step_of_transition (m.transition.withLimit allowed granted)

theorem Proceeds.withLimit (proceeds : Proceeds n m m') (allowed : Allows limit m'.steps) :
    Proceeds n (m.withLimit limit) (m'.withLimit limit) := by
  induction proceeds with
  | refl m => exact .refl _
  | @step _ m _ more rest ih =>
    have taken := step_withLimit (allowed.mono rest.steps_le) (by simp [more])
    refine .step ((congrArg Step.answer taken).trans more) ?_
    rw [taken]
    exact ih allowed

/-- A run that no limit cut short ends so under any limit that allows its steps. -/
theorem Halts.withLimit (halts : Halts n m answer final) (allowed : Allows limit final.steps)
    (granted : ∀ l output, answer ≠ .error ⟨.stepLimitExceeded l, output⟩) :
    Halts n (m.withLimit limit) answer (final.withLimit limit) := by
  induction halts with
  | @finished m ended =>
    have taken := step_withLimit allowed (by simp [ended])
    have finished := Halts.finished ((congrArg Step.answer taken).trans ended)
    rw [taken] at finished
    exact finished
  | @failed m fault ended =>
    have taken := step_withLimit allowed fun l same => by
      rw [ended, Except.error.injEq] at same
      subst same
      exact granted l _ rfl
    have failed := Halts.failed ((congrArg Step.answer taken).trans ended)
    rw [taken] at failed
    exact failed
  | @step _ m _ _ more rest ih =>
    have taken := step_withLimit (allowed.mono rest.steps_le.1) (by simp [more])
    refine .step ((congrArg Step.answer taken).trans more) ?_
    rw [taken]
    exact ih allowed granted

/-- A run that ends well under a limit ends so without one. -/
theorem Halts.withoutLimit {output : String} (halts : Halts n m (.ok output) final) :
    Halts n (m.withLimit none) (.ok output) (final.withLimit none) :=
  halts.withLimit (allows_none _) (by simp)

end WithLimit

end TapeMachine

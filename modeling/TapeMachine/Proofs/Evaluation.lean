import TapeMachine.Proofs.History
import TapeMachine.Proofs.Transition

/-! Programs evaluated by recursion on loops, without frames or cursors, and the agreement of the
machine with it. Divergence is the absence of an evaluation. Limits on the steps are not considered. -/
namespace TapeMachine

open Machine Store

/-- A token sequence evaluated from its beginning, or a loop about to look at its cell. -/
inductive Task where
  | sequence (tokens : List Token)
  | loop (body : List Token)

/-- How an evaluation ends: after a fault or without one, with what is then in the store. Looking at
the cell after a body counts as a retest; looking at it first belongs to the dispatched token. -/
structure Outcome where
  fault : Option Fault
  store : Store
  dispatched : Nat
  retests : Nat

/-- Tokens are evaluated from left to right. A `loopStart` needs its partner, even if the body is not
run; the body is evaluated as long as the current cell is not zero, and evaluation goes on behind the
partner. The first fault ends all. -/
inductive Evaluates : Task → Store → Outcome → Prop
  | done {s} : Evaluates (.sequence []) s ⟨none, s, 0, 0⟩
  | perform {token rest s s' fault final d r} :
      token.isBracket = false → s.perform token = .ok s' →
      Evaluates (.sequence rest) s' ⟨fault, final, d, r⟩ →
      Evaluates (.sequence (token :: rest)) s ⟨fault, final, d + 1, r⟩
  | refuse {token rest s fault} :
      token.isBracket = false → s.perform token = .error fault →
      Evaluates (.sequence (token :: rest)) s ⟨some fault, s, 1, 0⟩
  | stray {rest s} : Evaluates (.sequence (.loopEnd :: rest)) s ⟨some .invalidSyntax, s, 1, 0⟩
  | unclosed {rest s} :
      (∀ body after, rest = body ++ .loopEnd :: after → ¬Balanced body) →
      Evaluates (.sequence (.loopStart :: rest)) s ⟨some .invalidSyntax, s, 1, 0⟩
  | pass {body after s s' fault final d r d' r'} :
      Balanced body → Evaluates (.loop body) s ⟨none, s', d, r⟩ →
      Evaluates (.sequence after) s' ⟨fault, final, d', r'⟩ →
      Evaluates (.sequence (.loopStart :: body ++ .loopEnd :: after)) s
        ⟨fault, final, d + d' + 1, r + r'⟩
  | fail {body after s fault final d r} :
      Balanced body → Evaluates (.loop body) s ⟨some fault, final, d, r⟩ →
      Evaluates (.sequence (.loopStart :: body ++ .loopEnd :: after)) s
        ⟨some fault, final, d + 1, r⟩
  | leave {body s} : s.tape.current.value = 0 → Evaluates (.loop body) s ⟨none, s, 0, 0⟩
  | turn {body s s' fault final d r d' r'} :
      s.tape.current.value ≠ 0 → Evaluates (.sequence body) s ⟨none, s', d, r⟩ →
      Evaluates (.loop body) s' ⟨fault, final, d', r'⟩ →
      Evaluates (.loop body) s ⟨fault, final, d + d', r + r' + 1⟩
  | turnFails {body s fault final d r} :
      s.tape.current.value ≠ 0 → Evaluates (.sequence body) s ⟨some fault, final, d, r⟩ →
      Evaluates (.loop body) s ⟨some fault, final, d, r⟩

namespace Outcome

def steps (o : Outcome) : Nat :=
  o.dispatched + o.retests

def answer (o : Outcome) : Except Failure String :=
  match o.fault with
  | none => .ok o.store.output
  | some fault => .error ⟨fault, o.store.output⟩

structure Matches (o : Outcome) (r : Run) : Prop where
  answer : r.answer = o.answer
  tape : r.machine.tape = o.store.tape
  input : r.machine.input = o.store.input
  steps : r.machine.steps = o.dispatched + o.retests

end Outcome

namespace Store

/-- A machine without a limit that has this store. -/
def machine (s : Store) (frames : List Frame) (steps : Nat) : Machine :=
  ⟨frames, s.tape, s.input, s.output, steps, none⟩

/-- The frames once a loop has looked at the cell: the body is put on top unless the cell is zero. -/
def loopFrames (s : Store) (body : List Token) (outer : List Frame) : List Frame :=
  if s.tape.current.value = 0 then outer else .loop body :: outer

section Machine

variable {s : Store} {frames : List Frame} {steps : Nat}

@[simp] theorem machine_store : (s.machine frames steps).store = s := rfl

@[simp] theorem machine_advance (frames' : List Frame) (s' : Store) :
    (s.machine frames steps).advance frames' s' = s'.machine frames' (steps + 1) := rfl

theorem machine_hasBudget : (s.machine frames steps).HasBudget :=
  hasBudget_of_unlimited rfl

end Machine

end Store

/-! ## Evaluations done by the machine -/

/-- From the machine on, `count` steps are taken: up to the given frames, or up to the fault. -/
def Realizes (m : Machine) (count : Nat) (fault : Option Fault) (final : Store)
    (frames : List Frame) : Prop :=
  match fault with
  | none => Proceeds count m (final.machine frames (m.steps + count))
  | some fault => ∃ n stuck, count = n + 1 ∧ Proceeds n m stuck ∧
      stuck.step.answer = .error fault ∧ stuck.step.next.store = final ∧
      stuck.step.next.steps = m.steps + count

section Realizes

variable {m m' : Machine} {n count : Nat} {fault : Option Fault} {final : Store}
  {frames : List Frame}

theorem Realizes.prepend (first : Proceeds n m m') (counted : m'.steps = m.steps + n)
    (rest : Realizes m' count fault final frames) :
    Realizes m (n + count) fault final frames := by
  cases fault with
  | none =>
    simp only [Realizes, counted, Nat.add_assoc] at rest ⊢
    exact first.trans rest
  | some fault =>
    obtain ⟨k, stuck, rfl, proceeds, failed, same, steps⟩ := rest
    exact ⟨n + k, stuck, by omega, first.trans proceeds, failed, same, by omega⟩

theorem Realizes.after_step (more : m.step.answer = .ok true) (next : m.step.next = m')
    (counted : m'.steps = m.steps + 1) (rest : Realizes m' count fault final frames) :
    Realizes m (count + 1) fault final frames := by
  rw [Nat.add_comm]
  exact Realizes.prepend (.of_step ⟨more, next⟩ (.refl _)) counted rest

theorem realizes_fault {fault : Fault} (failed : m.step.answer = .error fault)
    (same : m.step.next.store = final) (counted : m.step.next.steps = m.steps + 1) :
    Realizes m 1 (some fault) final frames :=
  ⟨0, m, rfl, .refl m, failed, same, counted⟩

end Realizes

section Frames

variable {s : Store} {whole rest body after : List Token} {token : Token} {balance : Int}
  {isLoop : Bool} {outer : List Frame} {steps : Nat}

theorem step_perform {s' : Store} (plain : token.isBracket = false)
    (performed : s.perform token = .ok s') :
    let m := s.machine (⟨whole, token :: rest, balance, isLoop⟩ :: outer) steps
    m.step.answer = .ok true ∧
      m.step.next = s'.machine (⟨whole, rest, balance, isLoop⟩ :: outer) (steps + 1) := by
  dsimp only
  rw [step_of_transition (.perform rfl machine_hasBudget plain performed)]
  exact ⟨rfl, rfl⟩

theorem step_refuse {fault : Fault} (plain : token.isBracket = false)
    (refused : s.perform token = .error fault) :
    (s.machine (⟨whole, token :: rest, balance, isLoop⟩ :: outer) steps).step =
      ⟨.error fault, s.machine (⟨whole, rest, balance, isLoop⟩ :: outer) (steps + 1), none⟩ :=
  step_of_transition (.refuse rfl machine_hasBudget plain refused)

theorem step_unclosed (unclosed : loopBody rest = none) :
    (s.machine (⟨whole, .loopStart :: rest, balance, isLoop⟩ :: outer) steps).step =
      ⟨.error .invalidSyntax, s.machine (⟨whole, rest, balance, isLoop⟩ :: outer) (steps + 1),
        none⟩ :=
  step_of_transition (.unclosed rfl machine_hasBudget unclosed)

theorem step_stray (met : balance ≤ 0) :
    (s.machine (⟨whole, .loopEnd :: rest, balance, isLoop⟩ :: outer) steps).step =
      ⟨.error .invalidSyntax, s.machine (⟨whole, rest, balance - 1, isLoop⟩ :: outer) (steps + 1),
        none⟩ := by
  have negative : balance - 1 < 0 := by omega
  rw [step_of_transition (.stray rfl machine_hasBudget), if_pos negative]
  rfl

theorem step_loopStart (found : loopBody rest = some (body, after)) :
    let m := s.machine (⟨whole, .loopStart :: rest, balance, isLoop⟩ :: outer) steps
    m.step.answer = .ok true ∧ m.step.next =
      s.machine (s.loopFrames body (⟨whole, after, balance, isLoop⟩ :: outer)) (steps + 1) := by
  dsimp only
  by_cases zero : s.tape.current.value = 0
  · rw [step_of_transition (.skip rfl machine_hasBudget found zero), loopFrames, if_pos zero]
    exact ⟨rfl, rfl⟩
  · rw [step_of_transition (.enter rfl machine_hasBudget found zero), loopFrames,
      if_neg zero]
    exact ⟨rfl, rfl⟩

theorem step_loop_end (inside : outer ≠ []) :
    let m := s.machine (⟨body, [], 0, true⟩ :: outer) steps
    m.step.answer = .ok true ∧ m.step.next = s.machine (s.loopFrames body outer) (steps + 1) := by
  dsimp only
  by_cases zero : s.tape.current.value = 0
  · rw [step_of_transition (.leave rfl machine_hasBudget zero), loopFrames, if_pos zero]
    simp [inside]
  · rw [step_of_transition (.again rfl machine_hasBudget zero), loopFrames, if_neg zero]
    exact ⟨rfl, rfl⟩

end Frames

/-- A machine whose frames stand before the task does what the outcome says. -/
def Task.RealizedBy (s : Store) (o : Outcome) : Task → Prop
  | .sequence tokens => ∀ whole balance isLoop outer steps, balance ≤ 0 →
      Realizes (s.machine (⟨whole, tokens, balance, isLoop⟩ :: outer) steps) o.steps o.fault o.store
        (⟨whole, [], balance, isLoop⟩ :: outer)
  | .loop body => ∀ outer steps, outer ≠ [] →
      Realizes (s.machine (s.loopFrames body outer) steps) o.steps o.fault o.store outer

theorem Evaluates.realized {task : Task} {s : Store} {o : Outcome} (evaluated : Evaluates task s o) :
    task.RealizedBy s o := by
  induction evaluated with
  | done =>
    intro whole balance isLoop outer steps _
    exact .refl _
  | @perform token rest s s' fault final d r plain performed _ ih =>
    intro whole balance isLoop outer steps met
    have count : d + 1 + r = d + r + 1 := by omega
    obtain ⟨more, next⟩ := step_perform plain performed
    simp only [Outcome.steps, count]
    exact Realizes.after_step more next rfl (ih whole balance isLoop outer (steps + 1) met)
  | refuse plain refused =>
    intro whole balance isLoop outer steps _
    apply realizes_fault <;> rw [step_refuse plain refused] <;> rfl
  | stray =>
    intro whole balance isLoop outer steps met
    apply realizes_fault <;> rw [step_stray met] <;> rfl
  | unclosed unclosed =>
    intro whole balance isLoop outer steps _
    have missing := loopBody_eq_none_iff.2 unclosed
    apply realizes_fault <;> rw [step_unclosed missing] <;> rfl
  | @pass body after s s' fault final d r d' r' balanced _ _ ihLoop ihAfter =>
    intro whole balance isLoop outer steps met
    have count : d + d' + 1 + (r + r') = d + r + (d' + r') + 1 := by omega
    obtain ⟨more, next⟩ := step_loopStart (loopBody_append balanced after)
    simp only [Outcome.steps, count]
    refine Realizes.after_step more next rfl ?_
    have loop := ihLoop (⟨whole, after, balance, isLoop⟩ :: outer) (steps + 1) (by simp)
    exact Realizes.prepend loop rfl (ihAfter whole balance isLoop outer _ met)
  | @fail body after s fault final d r balanced _ ih =>
    intro whole balance isLoop outer steps _
    have count : d + 1 + r = d + r + 1 := by omega
    obtain ⟨more, next⟩ := step_loopStart (loopBody_append balanced after)
    simp only [Outcome.steps, count]
    refine Realizes.after_step more next rfl ?_
    exact ih (⟨whole, after, balance, isLoop⟩ :: outer) (steps + 1) (by simp)
  | leave zero =>
    intro outer steps _
    rw [loopFrames, if_pos zero]
    exact .refl _
  | @turn body s s' fault final d r d' r' nonzero _ _ ihBody ihLoop =>
    intro outer steps inside
    have count : d + d' + (r + r' + 1) = d + r + (d' + r' + 1) := by omega
    simp only [Outcome.steps, count, loopFrames, if_neg nonzero]
    have round := ihBody body 0 true outer steps (by omega)
    obtain ⟨more, next⟩ := step_loop_end inside
    exact Realizes.prepend round rfl
      (Realizes.after_step more next rfl (ihLoop outer _ inside))
  | turnFails nonzero _ ih =>
    intro outer steps _
    rw [loopFrames, if_neg nonzero]
    exact ih _ 0 true outer steps (by omega)

/-! ## Runs that are evaluations -/

section Converse

variable {answer : Except Failure String} {final : Machine}

theorem Realizes.rest_halts {m : Machine} {count n : Nat} {store : Store} {frames : List Frame}
    (realized : Realizes m count none store frames) (whole : Halts n m answer final) :
    ∃ left, n = count + left ∧
      Halts left (store.machine frames (m.steps + count)) answer final :=
  Proceeds.rest_halts realized whole

theorem rest_halts_of_step {m m' : Machine} {n : Nat} (more : m.step.answer = .ok true)
    (next : m.step.next = m') (whole : Halts n m answer final) :
    ∃ left, n = left + 1 ∧ Halts left m' answer final := by
  have taken : Proceeds 1 m m' := .of_step ⟨more, next⟩ (.refl _)
  obtain ⟨left, rfl, rest⟩ := taken.rest_halts whole
  exact ⟨left, by omega, rest⟩

/-- A task is evaluated if a run that begins with it ends within fewer steps than `bound`. -/
def Task.EvaluatesWithin (bound : Nat) (answer : Except Failure String) (final : Machine) : Prop :=
  (∀ n < bound, ∀ s tokens whole balance isLoop outer steps, balance ≤ 0 →
    Halts n (s.machine (⟨whole, tokens, balance, isLoop⟩ :: outer) steps) answer final →
    ∃ o, Evaluates (.sequence tokens) s o) ∧
  ∀ n < bound, ∀ s body outer steps, outer ≠ [] →
    Halts n (s.machine (s.loopFrames body outer) steps) answer final →
    ∃ o, Evaluates (.loop body) s o

theorem evaluates_loopStart {n : Nat} (within : Task.EvaluatesWithin n answer final) {s : Store}
    {rest whole : List Token} {balance : Int} {isLoop : Bool} {outer : List Frame} {steps : Nat}
    (met : balance ≤ 0)
    (halts : Halts n (s.machine (⟨whole, .loopStart :: rest, balance, isLoop⟩ :: outer) steps)
      answer final) :
    ∃ o, Evaluates (.sequence (.loopStart :: rest)) s o := by
  cases found : loopBody rest with
  | none => exact ⟨_, .unclosed (loopBody_eq_none_iff.1 found)⟩
  | some split =>
    obtain ⟨body, after⟩ := split
    obtain ⟨rfl, balanced⟩ := loopBody_eq_some_iff.1 found
    obtain ⟨more, next⟩ := step_loopStart found
    obtain ⟨left, rfl, entered⟩ := rest_halts_of_step more next halts
    obtain ⟨⟨fault, s', d, r⟩, loop⟩ := within.2 left (by omega) s body _ _ (by simp) entered
    cases fault with
    | some fault => exact ⟨_, .fail balanced loop⟩
    | none =>
      have realized := loop.realized (⟨whole, after, balance, isLoop⟩ :: outer) (steps + 1) (by simp)
      obtain ⟨left', rfl, behind⟩ := Realizes.rest_halts realized entered
      obtain ⟨⟨fault, final, d', r'⟩, rest⟩ :=
        within.1 left' (by omega) s' after _ _ _ _ _ met behind
      exact ⟨_, .pass balanced loop rest⟩

theorem evaluates_sequence {n : Nat} (within : Task.EvaluatesWithin n answer final) {s : Store}
    {tokens whole : List Token} {balance : Int} {isLoop : Bool} {outer : List Frame} {steps : Nat}
    (met : balance ≤ 0)
    (halts : Halts n (s.machine (⟨whole, tokens, balance, isLoop⟩ :: outer) steps) answer final) :
    ∃ o, Evaluates (.sequence tokens) s o := by
  cases tokens with
  | nil => exact ⟨_, .done⟩
  | cons token rest =>
    cases plain : token.isBracket with
    | true =>
      rcases Token.isBracket_cases plain with rfl | rfl
      · exact evaluates_loopStart within met halts
      · exact ⟨_, .stray⟩
    | false =>
      cases performed : s.perform token with
      | error fault => exact ⟨_, .refuse plain performed⟩
      | ok s' =>
        obtain ⟨more, next⟩ := step_perform plain performed
        obtain ⟨left, rfl, behind⟩ := rest_halts_of_step more next halts
        obtain ⟨⟨fault, final, d, r⟩, evaluated⟩ :=
          within.1 left (by omega) s' rest _ _ _ _ _ met behind
        exact ⟨_, .perform plain performed evaluated⟩

theorem evaluates_loop {n : Nat} (within : Task.EvaluatesWithin n answer final) {s : Store}
    {body : List Token} {outer : List Frame} {steps : Nat} (inside : outer ≠ [])
    (halts : Halts n (s.machine (s.loopFrames body outer) steps) answer final) :
    ∃ o, Evaluates (.loop body) s o := by
  by_cases zero : s.tape.current.value = 0
  · exact ⟨_, .leave zero⟩
  · rw [loopFrames, if_neg zero] at halts
    obtain ⟨⟨fault, s', d, r⟩, round⟩ := evaluates_sequence within (Int.le_refl 0) halts
    cases fault with
    | some fault => exact ⟨_, .turnFails zero round⟩
    | none =>
      have realized := round.realized body 0 true outer steps (by omega)
      obtain ⟨left, rfl, ended⟩ := Realizes.rest_halts realized halts
      obtain ⟨more, next⟩ := step_loop_end inside
      obtain ⟨left', rfl, retested⟩ := rest_halts_of_step more next ended
      obtain ⟨⟨fault, final, d', r'⟩, rest⟩ := within.2 left' (by omega) s' body _ _ inside retested
      exact ⟨_, .turn zero round rest⟩

theorem evaluatesWithin (bound : Nat) : Task.EvaluatesWithin bound answer final := by
  induction bound with
  | zero => exact ⟨by simp, by simp⟩
  | succ bound ih =>
    constructor
    · intro n within s tokens whole balance isLoop outer steps met halts
      rcases Nat.lt_succ_iff_lt_or_eq.1 within with less | rfl
      · exact ih.1 n less s tokens whole balance isLoop outer steps met halts
      · exact evaluates_sequence ih met halts
    · intro n within s body outer steps inside halts
      rcases Nat.lt_succ_iff_lt_or_eq.1 within with less | rfl
      · exact ih.2 n less s body outer steps inside halts
      · exact evaluates_loop ih inside halts

end Converse

/-! ## The two agree -/

/-- A machine at the end of its program hands over the output. -/
theorem halts_at_end (s : Store) (tokens : List Token) (balance : Int) (steps : Nat) :
    Halts 0 (s.machine [⟨tokens, [], balance, false⟩] steps) (.ok s.output)
      (s.machine [] steps).drained := by
  have last : (s.machine [⟨tokens, [], balance, false⟩] steps).step =
      ⟨.ok false, s.machine [] steps, none⟩ :=
    step_of_transition (@Transition.finish _ tokens balance [] rfl)
  have ended := Halts.finished (congrArg Step.answer last)
  rwa [last] at ended

theorem Evaluates.halts {tokens : List Token} {s : Store} {o : Outcome}
    (evaluated : Evaluates (.sequence tokens) s o) (steps : Nat) :
    ∃ n final, Halts n (s.machine [.program tokens] steps) o.answer final ∧
      final.tape = o.store.tape ∧ final.input = o.store.input ∧ final.steps = steps + o.steps := by
  have realized := evaluated.realized tokens 0 false [] steps (Int.le_refl 0)
  obtain ⟨fault, store, d, r⟩ := o
  cases fault with
  | none =>
    have ended := halts_at_end store tokens 0 (steps + (d + r))
    exact ⟨_, _, Proceeds.halts realized ended, rfl, rfl, rfl⟩
  | some fault =>
    obtain ⟨n, stuck, _, proceeds, failed, same, counted⟩ := realized
    have output : stuck.step.next.output = store.output := congrArg Store.output same
    refine ⟨n, stuck.step.next.stopped, ?_, congrArg Store.tape same, congrArg Store.input same,
      counted⟩
    have halts := proceeds.halts (.failed failed)
    rwa [output] at halts

theorem exists_evaluates {tokens : List Token} {s : Store} {n steps : Nat}
    {answer : Except Failure String} {final : Machine}
    (halts : Halts n (s.machine [.program tokens] steps) answer final) :
    ∃ o, Evaluates (.sequence tokens) s o :=
  evaluates_sequence (evaluatesWithin n) (Int.le_refl 0) halts

theorem start_eq_machine {settings : Settings} (unlimited : settings.stepLimit = none)
    (program input : String) :
    Machine.start settings program input =
      (fresh settings input).machine [.program (tokenize program)] 0 := by
  rw [Machine.start, unlimited]
  rfl

/-- Without a limit a loaded machine runs as its program is evaluated: one ends if and only if the
other does, and they end alike. -/
theorem run_agrees_with_evaluation {settings : Settings} {program input : String} {m : Machine}
    (loaded : Machine.load settings program input = .ok m) (unlimited : settings.stepLimit = none) :
    ((∃ fuel r, m.run fuel = some r) ↔
      ∃ o, Evaluates (.sequence (tokenize program)) (fresh settings input) o) ∧
    ∀ fuel r o, m.run fuel = some r →
      Evaluates (.sequence (tokenize program)) (fresh settings input) o → o.Matches r := by
  obtain ⟨-, rfl⟩ := load_eq_ok_iff.1 loaded
  rw [start_eq_machine unlimited]
  constructor
  · constructor
    · rintro ⟨fuel, r, ended⟩
      obtain ⟨n, halts⟩ := halts_of_run ended
      exact exists_evaluates halts
    · rintro ⟨o, evaluated⟩
      obtain ⟨n, final, halts, -⟩ := evaluated.halts 0
      obtain ⟨fuel, r, ended, -⟩ := halts.run
      exact ⟨fuel, r, ended⟩
  · intro fuel r o ended evaluated
    obtain ⟨n, halts⟩ := halts_of_run ended
    obtain ⟨k, final, halts', tape, input, steps⟩ := evaluated.halts 0
    obtain ⟨-, answer, rfl⟩ := halts.unique halts'
    exact ⟨answer, tape, input, by rw [steps, Nat.zero_add]; rfl⟩

theorem countdown_agrees_with_evaluation :
    Machine.load {} "++[-]." "" = .ok (Machine.start {} "++[-]." "") ∧
      ∃ o, Evaluates (.sequence (tokenize "++[-].")) (fresh {} "") o ∧
        o.answer = .ok "\x00" ∧ o.dispatched + o.retests = 8 := by
  have loaded : Machine.load {} "++[-]." "" = .ok (Machine.start {} "++[-]." "") := rfl
  obtain ⟨ends, alike⟩ := run_agrees_with_evaluation loaded rfl
  have ended : ((Machine.start {} "++[-]." "").run 9).map (fun r => (r.answer, r.machine.steps)) =
      some (.ok "\x00", 8) := rfl
  obtain ⟨r, ran, shown⟩ := Option.map_eq_some_iff.1 ended
  obtain ⟨o, evaluated⟩ := ends.1 ⟨9, r, ran⟩
  obtain ⟨answer, -, -, steps⟩ := alike 9 r o ran evaluated
  obtain ⟨answer', steps'⟩ := Prod.mk.inj shown
  exact ⟨loaded, o, evaluated, by rw [← answer, answer'], by rw [← steps, steps']⟩

end TapeMachine

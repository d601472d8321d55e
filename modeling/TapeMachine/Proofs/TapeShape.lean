import TapeMachine.Interpreter
import TapeMachine.Proofs.History
import TapeMachine.Proofs.TapeView
import TapeMachine.Proofs.Transition

/-! Machines whose tapes look alike from their pointers. No call tells them apart, so the cells a tape
starts with and the chunks it grows by do not matter to what programs do. -/
namespace TapeMachine

structure Store.Alike (s s' : Store) : Prop where
  tape : s.tape.Alike s'.tape
  input : s.input = s'.input
  output : s.output = s'.output

namespace Store.Alike

variable {s s' : Store} {token : Token}

theorem symm (alike : s.Alike s') : s'.Alike s :=
  ⟨alike.tape.symm, alike.input.symm, alike.output.symm⟩

theorem perform (alike : s.Alike s') (token : Token) :
    (∃ t t', s.perform token = .ok t ∧ s'.perform token = .ok t' ∧ t.Alike t') ∨
      ∃ fault, s.perform token = .error fault ∧ s'.perform token = .error fault := by
  obtain ⟨tape, input, output⟩ := alike
  cases token with
  | increment | decrement => exact .inl ⟨_, _, rfl, rfl, tape.modify _, input, output⟩
  | right => exact .inl ⟨_, _, rfl, rfl, tape.moveRight, input, output⟩
  | left => exact .inl ⟨_, _, rfl, rfl, tape.moveLeft, input, output⟩
  | output =>
    have pushed : s.output.push s.tape.current.char = s'.output.push s'.tape.current.char := by
      rw [output, tape.current]
    exact .inl ⟨_, _, rfl, rfl, tape, input, pushed⟩
  | input =>
    simp only [Store.perform, ← input]
    cases s.input with
    | nil => exact .inr ⟨_, rfl, rfl⟩
    | cons char rest => exact .inl ⟨_, _, rfl, rfl, tape.modify _, rfl, output⟩
  | loopStart | loopEnd | undefined char => exact .inr ⟨_, rfl, rfl⟩

end Store.Alike

namespace Machine

/-- The machines differ at most in the shape of their tapes. -/
structure Alike (m m' : Machine) : Prop where
  frames : m.frames = m'.frames
  store : m.store.Alike m'.store
  steps : m.steps = m'.steps
  stepLimit : m.stepLimit = m'.stepLimit

namespace Alike

variable {m m' : Machine}

theorem symm (alike : m.Alike m') : m'.Alike m :=
  ⟨alike.frames.symm, alike.store.symm, alike.steps.symm, alike.stepLimit.symm⟩

theorem advance {s s' : Store} (alike : m.Alike m') (frames : List Frame) (stores : s.Alike s') :
    (m.advance frames s).Alike (m'.advance frames s') :=
  ⟨rfl, stores, congrArg (· + 1) alike.steps, alike.stepLimit⟩

theorem budget (alike : m.Alike m') (budget : m.HasBudget) : m'.HasBudget := by
  intro limit limited
  rw [← alike.steps]
  exact budget limit (alike.stepLimit.trans limited)

theorem transition {taken : Step} (alike : m.Alike m') (transition : Transition m taken) :
    ∃ taken', Transition m' taken' ∧ taken.answer = taken'.answer ∧
      taken.next.Alike taken'.next := by
  have same := alike.frames
  have cell : m.tape.current = m'.tape.current := alike.store.tape.current
  cases transition with
  | idle ended => exact ⟨_, .idle (same ▸ ended), rfl, alike⟩
  | finish frames =>
    exact ⟨_, .finish (same ▸ frames), rfl, rfl, alike.store, alike.steps, alike.stepLimit⟩
  | exhausted busy limited spent =>
    refine ⟨_, .exhausted ?_ (alike.stepLimit ▸ limited) (alike.steps ▸ spent), rfl, alike⟩
    rwa [Busy, same] at busy
  | @perform _ token _ _ _ _ _ frames budget plain performed =>
    rcases alike.store.perform token with ⟨t, t', one, other, stores⟩ | ⟨fault, refused, -⟩
    · rw [performed, Except.ok.injEq] at one
      subst one
      exact ⟨_, .perform (same ▸ frames) (alike.budget budget) plain other, rfl,
        alike.advance _ stores⟩
    · simp [performed] at refused
  | @refuse _ token _ _ _ _ _ frames budget plain refused =>
    rcases alike.store.perform token with ⟨t, t', one, -, -⟩ | ⟨fault, one, other⟩
    · simp [refused] at one
    · rw [refused, Except.error.injEq] at one
      subst one
      exact ⟨_, .refuse (same ▸ frames) (alike.budget budget) plain other, rfl,
        alike.advance _ alike.store⟩
  | skip frames budget found zero =>
    exact ⟨_, .skip (same ▸ frames) (alike.budget budget) found (cell ▸ zero), rfl,
      alike.advance _ alike.store⟩
  | enter frames budget found nonzero =>
    exact ⟨_, .enter (same ▸ frames) (alike.budget budget) found (cell ▸ nonzero), rfl,
      alike.advance _ alike.store⟩
  | unclosed frames budget unclosed =>
    exact ⟨_, .unclosed (same ▸ frames) (alike.budget budget) unclosed, rfl,
      alike.advance _ alike.store⟩
  | stray frames budget =>
    exact ⟨_, .stray (same ▸ frames) (alike.budget budget), rfl, alike.advance _ alike.store⟩
  | leave frames budget zero =>
    exact ⟨_, .leave (same ▸ frames) (alike.budget budget) (cell ▸ zero), rfl,
      alike.advance _ alike.store⟩
  | again frames budget nonzero =>
    exact ⟨_, .again (same ▸ frames) (alike.budget budget) (cell ▸ nonzero), rfl,
      alike.advance _ alike.store⟩

theorem step (alike : m.Alike m') :
    m.step.answer = m'.step.answer ∧ m.step.next.Alike m'.step.next := by
  obtain ⟨taken', transition', answers, next⟩ := alike.transition m.transition
  rw [step_of_transition transition']
  exact ⟨answers, next⟩

end Alike

theorem alike_bisimulation : Bisimulation Alike where
  symm := Alike.symm
  shown {m m'} answer alike := by
    have cell : m.tape.current = m'.tape.current := alike.store.tape.current
    have input : m.input = m'.input := alike.store.input
    simp only [observe, depth, alike.steps, alike.frames, input, cell]
  output alike := alike.store.output
  answer alike := alike.step.1
  next alike := alike.step.2
  drained alike :=
    ⟨alike.frames, ⟨alike.store.tape, alike.store.input, rfl⟩, alike.steps, alike.stepLimit⟩
  stopped alike :=
    ⟨rfl, ⟨alike.store.tape, alike.store.input, rfl⟩, alike.steps, alike.stepLimit⟩

section Start

variable {settings settings' : Settings}

theorem fresh_alike (valid : settings.Valid) (valid' : settings'.Valid)
    (width : settings.cellBits = settings'.cellBits) (input : String) :
    (Store.fresh settings input).Alike (Store.fresh settings' input) where
  tape :=
    { sound := .blank valid.cells_pos valid.chunk_pos settings.cellBits
      sound' := .blank valid'.cells_pos valid'.chunk_pos settings'.cellBits
      view := fun distance => by
        rw [Store.fresh, Store.fresh, Tape.view_blank, Tape.view_blank, width] }
  input := rfl
  output := rfl

theorem start_alike (valid : settings.Valid) (valid' : settings'.Valid)
    (width : settings.cellBits = settings'.cellBits)
    (limit : settings.stepLimit = settings'.stepLimit) (program input : String) :
    (start settings program input).Alike (start settings' program input) where
  frames := rfl
  store := fresh_alike valid valid' width input
  steps := rfl
  stepLimit := limit

end Start

end Machine

/-- Two machines loaded with the same program, input, width and limit cannot be told apart by the
shapes of their tapes: the same calls end, give the same answers and leave tapes that look alike. -/
theorem tape_shape_unobservable {one other : Interpreter} {program input : String} {m m' : Machine}
    (loaded : Machine.load one.settings program input = .ok m)
    (loaded' : Machine.load other.settings program input = .ok m')
    (width : one.settings.cellBits = other.settings.cellBits)
    (limit : one.settings.stepLimit = other.settings.stepLimit) :
    (∀ log, (∃ v, History m log v) ↔ ∃ v', History m' log v') ∧
    (∀ log log' v v', History m log v → History m' log' v' →
      log.map Observation.call = log'.map Observation.call →
      log = log' ∧ ∀ distance, v.tape.view distance = v'.tape.view distance) ∧
    ∀ fuel, (one.interpret fuel program input).map Run.answer =
      (other.interpret fuel program input).map Run.answer := by
  obtain ⟨valid, rfl⟩ := Machine.load_eq_ok_iff.1 loaded
  obtain ⟨valid', rfl⟩ := Machine.load_eq_ok_iff.1 loaded'
  have alike := Machine.start_alike valid valid' width limit program input
  refine ⟨fun log => ⟨?_, ?_⟩, ?_, ?_⟩
  · rintro ⟨v, history⟩
    obtain ⟨v', history', -⟩ := Machine.alike_bisimulation.history alike history
    exact ⟨v', history'⟩
  · rintro ⟨v', history'⟩
    obtain ⟨v, history, -⟩ := Machine.alike_bisimulation.history alike.symm history'
    exact ⟨v, history⟩
  · intro log log' v v' history history' calls
    obtain ⟨v'', history'', same⟩ := Machine.alike_bisimulation.history alike history
    obtain ⟨rfl, rfl⟩ := history''.same_calls history' calls
    exact ⟨rfl, same.store.tape.view⟩
  · intro fuel
    exact Machine.alike_bisimulation.runAfter_answer alike _ _ fuel

/-- Growing on the left, by five cells on a tape of ten or by two on a tape of one. -/
theorem left_growth_unobservable :
    let one : Settings := {}
    let other : Settings := { initialCells := 1, growthChunk := 2 }
    let m := Machine.start one "<" ""
    let m' := Machine.start other "<" ""
    Machine.load one "<" "" = .ok m ∧ Machine.load other "<" "" = .ok m' ∧
      one.cellBits = other.cellBits ∧ one.stepLimit = other.stepLimit ∧
      (∀ distance, m.step.next.tape.view distance = m'.step.next.tape.view distance) ∧
      m.step.next.tape.size = 15 ∧ m'.step.next.tape.size = 3 := by
  intro one other m m'
  have valid : one.Valid := by constructor <;> decide
  have valid' : other.Valid := by constructor <;> decide
  have loaded : Machine.load one "<" "" = .ok m := rfl
  have loaded' : Machine.load other "<" "" = .ok m' := rfl
  obtain ⟨-, alike, -⟩ :=
    @tape_shape_unobservable ⟨one, valid⟩ ⟨other, valid'⟩ _ _ _ _ loaded loaded' rfl rfl
  have views := (alike _ _ _ _ (.step .start) (.step .start) (by simp)).2
  exact ⟨loaded, loaded', rfl, rfl, views, rfl, rfl⟩

end TapeMachine

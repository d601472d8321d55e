import TapeMachine.Proofs.Evaluation
import TapeMachine.Proofs.JumpMachine
import TapeMachine.Proofs.Limit

/-! The brackets of a program decide whether `invalidSyntax` can be met. The machine looks at them only
as it comes to them, but it finds fault with a bracket exactly if the whole program leaves it alone. -/
namespace TapeMachine

open Machine

theorem Store.perform_ne_invalidSyntax (s : Store) {token : Token}
    (plain : token.isBracket = false) : s.perform token ≠ .error .invalidSyntax := by
  cases token with
  | loopStart | loopEnd => simp [Token.isBracket] at plain
  | input =>
    rw [Store.perform]
    cases s.input <;> simp
  | _ => simp [Store.perform]

/-- Only brackets fail so, and only from the top of a frame that holds no partner for them. -/
theorem Transition.of_invalidSyntax {m : Machine} {taken : Step} (transition : Transition m taken)
    (failed : taken.answer = .error .invalidSyntax) :
    ∃ tokens token rest balance isLoop outer,
      m.frames = ⟨tokens, token :: rest, balance, isLoop⟩ :: outer ∧
        (token = .loopEnd ∨ token = .loopStart ∧ loopBody rest = none) := by
  cases transition with
  | refuse _ _ plain refused =>
    rw [Except.error.injEq] at failed
    subst failed
    exact absurd refused (m.store.perform_ne_invalidSyntax plain)
  | unclosed frames _ unclosed => exact ⟨_, _, _, _, _, _, frames, .inr ⟨rfl, unclosed⟩⟩
  | stray frames _ => exact ⟨_, _, _, _, _, _, frames, .inl rfl⟩
  | _ => simp at failed

/-- The machine stands before a bracket of the program that has no partner in it, in no loop. -/
def AtLoneBracket (program : List Token) (m : Machine) : Prop :=
  ∃ frame token, m.frames = [frame] ∧ frame.tokens = program ∧ frame.isLoop = false ∧
    program[frame.cursor]? = some token ∧ token.isBracket = true ∧ Lone program frame.cursor

theorem Placed.cursor_eq {program : List Token} {frame : Frame} {index : Nat}
    {loops : List (Nat × Nat)} (placed : Placed program [frame] index loops) :
    frame.cursor = index ∧ frame.isLoop = false := by
  cases placed with
  | program inside _ same _ =>
    refine ⟨?_, rfl⟩
    simp only [Frame.cursor, same, length_slice]
    omega
  | loop _ _ _ _ _ _ below => exact absurd rfl below.ne_nil

theorem Reachable.at_lone_bracket {settings : Settings} {program input : String} {m : Machine}
    (reached : Reachable (Machine.start settings program input) m)
    (failed : m.step.answer = .error .invalidSyntax) :
    m.depth = 0 ∧ AtLoneBracket (tokenize program) m := by
  obtain ⟨tokens, token, rest, balance, isLoop, outer, frames, failing⟩ :=
    m.transition.of_invalidSyntax failed
  obtain ⟨index, loops, placed⟩ := reached.placed frames
  obtain ⟨lone, rfl, rfl, -⟩ := placed.unmatched failing (Int.le_refl balance)
  obtain ⟨cursor, bottom⟩ := placed.cursor_eq
  have bracket : token.isBracket = true := by
    rcases failing with rfl | ⟨rfl, -⟩ <;> rfl
  refine ⟨by simp [depth, frames], _, token, frames, rfl, bottom, ?_⟩
  rw [cursor]
  exact ⟨placed.here, bracket, lone⟩

theorem Evaluates.balanced {task : Task} {s : Store} {o : Outcome} (evaluated : Evaluates task s o)
    (clean : o.fault = none) {tokens : List Token} (whole : task = .sequence tokens) :
    Balanced tokens := by
  induction evaluated generalizing tokens with
  | done =>
    cases whole
    rfl
  | perform plain _ _ ih =>
    cases whole
    exact (balanced_plain plain).append (ih clean rfl)
  | @pass body after _ _ _ _ _ _ _ _ balanced _ _ _ ih =>
    cases whole
    have joined := (balanced_loop balanced).append (ih clean rfl)
    simpa using joined
  | refuse | stray | unclosed | fail | turnFails => simp at clean
  | leave | turn => simp at whole

theorem balanced_of_run {settings : Settings} {program input : String} {fuel : Nat} {r : Run}
    {output : String} (ended : (Machine.start settings program input).run fuel = some r)
    (answer : r.answer = .ok output) : Balanced (tokenize program) := by
  obtain ⟨n, halts⟩ := halts_of_run ended
  rw [answer] at halts
  have unlimited := halts.withoutLimit
  have start : (Machine.start settings program input).withLimit none =
      (Store.fresh settings input).machine [.program (tokenize program)] 0 := rfl
  rw [start] at unlimited
  obtain ⟨o, evaluated⟩ := exists_evaluates unlimited
  obtain ⟨_, _, halts', -⟩ := evaluated.halts 0
  obtain ⟨-, same, -⟩ := unlimited.unique halts'
  refine evaluated.balanced ?_ rfl
  cases clean : o.fault with
  | none => rfl
  | some fault => simp [Outcome.answer, clean] at same

/-- In a balanced program `invalidSyntax` is never reported; one that is not balanced never runs to its
end; and a bracket that fails is one without a partner, met outside all loops. -/
theorem balance_decides_invalidSyntax {settings : Settings} {program input : String} {m : Machine}
    (loaded : Machine.load settings program input = .ok m) :
    (Balanced (tokenize program) → ∀ log v, History m log v →
      ∀ o ∈ log, o.answer.fault? ≠ some .invalidSyntax) ∧
    (¬Balanced (tokenize program) → ∀ fuel r, m.run fuel = some r →
      ∃ failure, r.answer = .error failure) ∧
    ∀ v, Reachable m v → v.step.answer = .error .invalidSyntax →
      v.depth = 0 ∧ AtLoneBracket (tokenize program) v := by
  obtain ⟨-, rfl⟩ := load_eq_ok_iff.1 loaded
  refine ⟨?_, ?_, fun v reached failed => reached.at_lone_bracket failed⟩
  · intro balanced log v history o listed reported
    obtain ⟨stuck, reached, failed⟩ := history.fault_of_step listed reported
    obtain ⟨-, _, token, _, _, _, here, bracket, lone⟩ := reached.at_lone_bracket failed
    exact balanced.not_lone here bracket lone
  · intro unbalanced fuel r ended
    cases answer : r.answer with
    | ok output => exact absurd (balanced_of_run ended answer) unbalanced
    | error failure => exact ⟨failure, rfl⟩

theorem lone_loopEnd_decides_invalidSyntax :
    let m := Machine.start {} "+]" ""
    let balanced := Machine.start {} "+[,]" ""
    Machine.load {} "+]" "" = .ok m ∧ ¬Balanced (tokenize "+]") ∧
      (∃ r failure, m.run 2 = some r ∧ r.answer = .error failure) ∧
      m.step.next.step.answer = .error .invalidSyntax ∧
      AtLoneBracket (tokenize "+]") m.step.next ∧
      Machine.load {} "+[,]" "" = .ok balanced ∧ Balanced (tokenize "+[,]") ∧
      ∀ log v, History balanced log v → ∀ o ∈ log, o.answer.fault? ≠ some .invalidSyntax := by
  intro m balanced
  have loaded : Machine.load {} "+]" "" = .ok m := rfl
  have unbalanced : ¬Balanced (tokenize "+]") := by decide
  have failed : m.step.next.step.answer = .error .invalidSyntax := rfl
  have ended : (m.run 2).isSome := rfl
  obtain ⟨-, fails, found⟩ := balance_decides_invalidSyntax loaded
  obtain ⟨r, ran⟩ := Option.isSome_iff_exists.1 ended
  obtain ⟨failure, answer⟩ := fails unbalanced 2 r ran
  have lone := (found _ Reachable.start.step failed).2
  have loaded' : Machine.load {} "+[,]" "" = .ok balanced := rfl
  have even : Balanced (tokenize "+[,]") := by decide
  have never := (balance_decides_invalidSyntax loaded').1 even
  exact ⟨loaded, unbalanced, ⟨r, failure, ran, answer⟩, failed, lone, loaded', even, never⟩

end TapeMachine

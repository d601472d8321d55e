import TapeMachine.Proofs.Behaviour
import TapeMachine.Proofs.TapeView

/-! Loops that are never entered. The current cell is zero wherever a loop has just been left, and at the
start of a program, so a loop that stands there does nothing, whatever its body is and whatever stands
around it. -/
namespace TapeMachine

open Machine Store Behaviour

def loopText (body : String) : String :=
  "[" ++ body ++ "]"

theorem tokenize_loopText (body : String) :
    tokenize (loopText body) = .loopStart :: tokenize body ++ [.loopEnd] := by
  rw [loopText, tokenize_append, tokenize_append]
  rfl

theorem balanced_loopText {body : String} (balanced : Balanced (tokenize body)) :
    Balanced (tokenize (loopText body)) := by
  rw [tokenize_loopText]
  exact balanced_loop balanced

theorem behaviour_loopText {body : String} (balanced : Balanced (tokenize body)) :
    behaviour (tokenize (loopText body)) = (behaviour (tokenize body)).loop := by
  rw [tokenize_loopText, behaviour_of_loop balanced]

theorem fresh_current_zero (settings : Settings) (input : String) :
    (fresh settings input).tape.current.value = 0 := by
  rw [← Tape.view_zero]
  exact congrArg Cell.value (Tape.view_blank ..)

section DeadLoop

variable {body dead : String}

theorem behaviour_loop_loop (balanced : Balanced (tokenize body)) (balanced' : Balanced (tokenize dead)) :
    behaviour (tokenize (loopText body ++ loopText dead)) = behaviour (tokenize (loopText body)) := by
  rw [tokenize_append, behaviour_append (balanced_loopText balanced), behaviour_loopText balanced,
    behaviour_loopText balanced', loop_andThen_loop]

theorem behaviour_loop_of_zero {s : Store} (balanced : Balanced (tokenize dead))
    (zero : s.tape.current.value = 0) (behind : String) (fault : Option Fault) (final : Store) :
    behaviour (tokenize (loopText dead ++ behind)) s fault final ↔
      behaviour (tokenize behind) s fault final := by
  rw [tokenize_append, behaviour_append (balanced_loopText balanced), behaviour_loopText balanced]
  exact andThen_of_skip fun _ _ => loop_of_zero zero

/-- A loop directly behind a loop can be left out of a program, wherever the two stand, and so can a loop
at the start of a program: without a limit the shorter program ends exactly if the longer one does, and
alike. -/
theorem dead_loop_unobservable {settings : Settings} (valid : settings.Valid)
    (unlimited : settings.stepLimit = none) (balanced : Balanced (tokenize body))
    (balanced' : Balanced (tokenize dead)) (before behind input : String) :
    (∃ m m', load settings (before ++ loopText body ++ loopText dead ++ behind) input = .ok m ∧
      load settings (before ++ loopText body ++ behind) input = .ok m' ∧ RunsAlike m m') ∧
    ∃ m m', load settings (loopText dead ++ behind) input = .ok m ∧
      load settings behind input = .ok m' ∧ RunsAlike m m' := by
  have loads : ∀ program, load settings program input = .ok (Machine.start settings program input) :=
    fun program => load_eq_ok_iff.2 ⟨valid, rfl⟩
  refine ⟨⟨_, _, loads _, loads _, runsAlike_of_behaviour unlimited ?_⟩,
    ⟨_, _, loads _, loads _, runsAlike_of_behaviour unlimited ?_⟩⟩
  · intro fault final
    have pair := (balanced_loopText balanced).append (balanced_loopText balanced')
    rw [← tokenize_append] at pair
    have exchanged := behaviour_congr (tokenize before) (tokenize behind) pair
      (balanced_loopText balanced) (behaviour_loop_loop balanced balanced')
    simp only [tokenize_append, List.append_assoc] at exchanged ⊢
    rw [exchanged]
  · exact behaviour_loop_of_zero balanced' (fresh_current_zero settings input) behind

/-- A loop with no end in it does nothing behind another loop, within one that opens before the two and
closes behind them; nor does a loop with an undefined character at the start. -/
theorem endless_loop_unobservable :
    Settings.Valid {} ∧ Balanced (tokenize "-") ∧ Balanced (tokenize ",[]") ∧
      Balanced (tokenize "?") ∧
      (∃ m fuel r,
        load {} ("++[>+" ++ loopText "-" ++ loopText ",[]" ++ "<-.]") "" = .ok m ∧
          m.run fuel = some r ∧ r.answer = .ok "\x01\x00") ∧
      ∃ m fuel r, load {} (loopText "?" ++ "+.") "" = .ok m ∧ m.run fuel = some r ∧
        r.answer = .ok "\x01" := by
  have valid : Settings.Valid {} := ⟨by decide, by decide, by decide, by decide⟩
  have drains : Balanced (tokenize "-") := by decide
  have endless : Balanced (tokenize ",[]") := by decide
  have undefined : Balanced (tokenize "?") := by decide
  obtain ⟨m, m', loaded, loaded', alike⟩ :=
    (dead_loop_unobservable valid rfl drains endless "++[>+" "<-.]" "").1
  obtain ⟨v, v', started, started', alike'⟩ :=
    (dead_loop_unobservable valid rfl drains undefined "" "+." "").2
  obtain ⟨-, rfl⟩ := load_eq_ok_iff.1 loaded'
  obtain ⟨-, rfl⟩ := load_eq_ok_iff.1 started'
  have shorter : ((Machine.start {} ("++[>+" ++ loopText "-" ++ "<-.]") "").run 30).map Run.answer =
      some (.ok "\x01\x00") := rfl
  have shorter' : ((Machine.start {} "+." "").run 3).map Run.answer = some (.ok "\x01") := rfl
  obtain ⟨r, ran, answer⟩ := Option.map_eq_some_iff.1 shorter
  obtain ⟨r', ran', answer'⟩ := Option.map_eq_some_iff.1 shorter'
  obtain ⟨fuel, longer, ended⟩ := alike.ends.2 ⟨30, r, ran⟩
  obtain ⟨fuel', longer', ended'⟩ := alike'.ends.2 ⟨3, r', ran'⟩
  have same := (alike.same fuel 30 longer r ended ran).1
  have same' := (alike'.same fuel' 3 longer' r' ended' ran').1
  exact ⟨valid, drains, endless, undefined,
    ⟨m, fuel, longer, loaded, ended, same.symm.trans answer⟩,
    v, fuel', longer', started, ended', same'.symm.trans answer'⟩

end DeadLoop

end TapeMachine

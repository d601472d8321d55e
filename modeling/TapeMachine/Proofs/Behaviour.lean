import TapeMachine.Proofs.Evaluation

/-! What a program does, as a relation between stores that leaves out the steps it takes. Behaviours are
put together as programs are, so a balanced stretch of a program may be replaced by any other that does
the same, wherever it stands. -/
namespace TapeMachine

open Machine Store

/-- From a store to the one a program ends with there, and the fault it ends with, if any. -/
def Behaviour :=
  Store → Option Fault → Store → Prop

namespace Behaviour

theorem ext {b b' : Behaviour} (same : ∀ s fault final, b s fault final ↔ b' s fault final) :
    b = b' :=
  funext fun s => funext fun fault => funext fun final => propext (same s fault final)

def skip : Behaviour := fun s fault final =>
  fault = none ∧ final = s

def raise (raised : Fault) : Behaviour := fun s fault final =>
  fault = some raised ∧ final = s

/-- A token by itself. -/
def single (token : Token) : Behaviour := fun s fault final =>
  match s.perform token with
  | .ok s' => fault = none ∧ final = s'
  | .error raised => fault = some raised ∧ final = s

/-- The second follows where the first ends without a fault. -/
def andThen (first second : Behaviour) : Behaviour := fun s fault final =>
  (fault ≠ none ∧ first s fault final) ∨ ∃ s', first s none s' ∧ second s' fault final

/-- A body done as often as the current cell is found not to be zero. -/
inductive Repeated (body : Behaviour) : Store → Option Fault → Store → Prop
  | leave {s} : s.tape.current.value = 0 → Repeated body s none s
  | turn {s s' fault final} : s.tape.current.value ≠ 0 → body s none s' →
      Repeated body s' fault final → Repeated body s fault final
  | turnFails {s fault final} : s.tape.current.value ≠ 0 → body s (some fault) final →
      Repeated body s (some fault) final

def loop (body : Behaviour) : Behaviour :=
  Repeated body

variable {first second third body body' : Behaviour} {s final : Store} {fault : Option Fault}

theorem skip_andThen : skip.andThen second = second := by
  refine ext fun s fault final => ?_
  constructor
  · rintro (⟨failed, rfl, -⟩ | ⟨s', ⟨-, rfl⟩, rest⟩)
    · exact absurd rfl failed
    · exact rest
  · exact fun rest => .inr ⟨s, ⟨rfl, rfl⟩, rest⟩

theorem andThen_of_skip (quiet : ∀ fault final, first s fault final ↔ skip s fault final) :
    first.andThen second s fault final ↔ second s fault final := by
  have same : first.andThen second s fault final ↔ skip.andThen second s fault final :=
    or_congr (and_congr_right fun _ => quiet _ _) (exists_congr fun _ => and_congr_left' (quiet _ _))
  rw [same, skip_andThen]

theorem andThen_skip : first.andThen skip = first := by
  refine ext fun s fault final => ?_
  constructor
  · rintro (⟨-, failed⟩ | ⟨s', ended, rfl, rfl⟩)
    · exact failed
    · exact ended
  · intro ended
    cases fault with
    | none => exact .inr ⟨final, ended, rfl, rfl⟩
    | some fault => exact .inl ⟨by simp, ended⟩

theorem andThen_assoc :
    (first.andThen second).andThen third = first.andThen (second.andThen third) := by
  refine ext fun s fault final => ?_
  constructor
  · rintro (⟨failed, ⟨-, one⟩ | ⟨s', one, two⟩⟩ | ⟨s'', ⟨unfailed, -⟩ | ⟨s', one, two⟩, three⟩)
    · exact .inl ⟨failed, one⟩
    · exact .inr ⟨s', one, .inl ⟨failed, two⟩⟩
    · exact absurd rfl unfailed
    · exact .inr ⟨s', one, .inr ⟨s'', two, three⟩⟩
  · rintro (⟨failed, one⟩ | ⟨s', one, ⟨failed, two⟩ | ⟨s'', two, three⟩⟩)
    · exact .inl ⟨failed, .inl ⟨failed, one⟩⟩
    · exact .inl ⟨failed, .inr ⟨s', one, two⟩⟩
    · exact .inr ⟨s'', .inr ⟨s', one, two⟩, three⟩

/-! ## Leaving a loop -/

/-- Whether the loop is skipped or left after its body, the current cell has just been found zero. -/
theorem current_zero_after_loop (ended : body.loop s none final) :
    final.tape.current.value = 0 := by
  generalize unfailed : (none : Option Fault) = fault at ended
  induction ended with
  | leave zero => exact zero
  | turn _ _ _ ih => exact ih unfailed
  | turnFails => cases unfailed

theorem loop_of_zero (zero : s.tape.current.value = 0) :
    body.loop s fault final ↔ skip s fault final := by
  constructor
  · intro ended
    cases ended with
    | leave => exact ⟨rfl, rfl⟩
    | turn nonzero => exact absurd zero nonzero
    | turnFails nonzero => exact absurd zero nonzero
  · rintro ⟨rfl, rfl⟩
    exact .leave zero

/-- A loop just behind another finds the current cell zero, so nothing is left of it. -/
theorem loop_andThen_loop : body.loop.andThen body'.loop = body.loop := by
  have skipped : body.loop.andThen body'.loop = body.loop.andThen skip :=
    ext fun s fault final => or_congr_right <| exists_congr fun s' => and_congr_right fun ended =>
      loop_of_zero (current_zero_after_loop ended)
  rw [skipped, andThen_skip]

end Behaviour

/-! ## Programs and their behaviours -/

open Behaviour

def Task.behaviour (task : Task) : Behaviour := fun s fault final =>
  ∃ d r, Evaluates task s ⟨fault, final, d, r⟩

def behaviour (tokens : List Token) : Behaviour :=
  (Task.sequence tokens).behaviour

section Programs

variable {token : Token} {tokens rest body after xs ys : List Token}

theorem behaviour_nil : behaviour [] = skip := by
  refine ext fun s fault final => ?_
  constructor
  · rintro ⟨_, _, ⟨⟩⟩
    exact ⟨rfl, rfl⟩
  · rintro ⟨rfl, rfl⟩
    exact ⟨_, _, .done⟩

theorem behaviour_plain (plain : token.isBracket = false) (rest : List Token) :
    behaviour (token :: rest) = (single token).andThen (behaviour rest) := by
  refine ext fun s fault final => ?_
  constructor
  · rintro ⟨_, _, evaluated⟩
    cases evaluated with
    | perform _ performed evaluated =>
      exact .inr ⟨_, by simp [single, performed], _, _, evaluated⟩
    | refuse _ refused => exact .inl ⟨by simp, by simp [single, refused]⟩
    | stray => simp [Token.isBracket] at plain
    | unclosed => simp [Token.isBracket] at plain
    | pass => simp [Token.isBracket] at plain
    | fail => simp [Token.isBracket] at plain
  · cases performed : s.perform token with
    | ok s' =>
      rintro (⟨failed, ended⟩ | ⟨_, ended, _, _, evaluated⟩)
      · simp_all [single]
      · simp only [single, performed, true_and] at ended
        subst ended
        exact ⟨_, _, .perform plain performed evaluated⟩
    | error raised =>
      rintro (⟨-, ended⟩ | ⟨_, ended, -⟩)
      · simp only [single, performed] at ended
        obtain ⟨rfl, rfl⟩ := ended
        exact ⟨_, _, .refuse plain performed⟩
      · simp [single, performed] at ended

theorem behaviour_loopEnd (rest : List Token) :
    behaviour (.loopEnd :: rest) = raise .invalidSyntax := by
  refine ext fun s fault final => ?_
  constructor
  · rintro ⟨_, _, evaluated⟩
    cases evaluated with
    | stray => exact ⟨rfl, rfl⟩
    | perform plain => simp [Token.isBracket] at plain
    | refuse plain => simp [Token.isBracket] at plain
  · rintro ⟨rfl, rfl⟩
    exact ⟨_, _, .stray⟩

theorem behaviour_unclosed (unclosed : loopBody rest = none) :
    behaviour (.loopStart :: rest) = raise .invalidSyntax := by
  refine ext fun s fault final => ?_
  constructor
  · rintro ⟨_, _, evaluated⟩
    cases evaluated with
    | unclosed => exact ⟨rfl, rfl⟩
    | perform plain => simp [Token.isBracket] at plain
    | refuse plain => simp [Token.isBracket] at plain
    | pass balanced => simp [loopBody_append balanced] at unclosed
    | fail balanced => simp [loopBody_append balanced] at unclosed
  · rintro ⟨rfl, rfl⟩
    exact ⟨_, _, .unclosed (loopBody_eq_none_iff.1 unclosed)⟩

theorem Evaluates.looped {s : Store} {o : Outcome} (evaluated : Evaluates (.loop body) s o) :
    (behaviour body).loop s o.fault o.store := by
  generalize looping : Task.loop body = task at evaluated
  induction evaluated with
  | leave zero => exact .leave zero
  | turn nonzero round _ _ ih =>
    cases looping
    exact .turn nonzero ⟨_, _, round⟩ (ih rfl)
  | turnFails nonzero round =>
    cases looping
    exact .turnFails nonzero ⟨_, _, round⟩
  | _ => cases looping

theorem loop_behaviour (body : List Token) :
    (Task.loop body).behaviour = (behaviour body).loop := by
  refine ext fun s fault final => ?_
  constructor
  · rintro ⟨_, _, evaluated⟩
    exact evaluated.looped
  · intro ended
    induction ended with
    | leave zero => exact ⟨_, _, .leave zero⟩
    | turn nonzero round _ ih =>
      obtain ⟨_, _, round⟩ := round
      obtain ⟨_, _, rest⟩ := ih
      exact ⟨_, _, .turn nonzero round rest⟩
    | turnFails nonzero round =>
      obtain ⟨_, _, round⟩ := round
      exact ⟨_, _, .turnFails nonzero round⟩

theorem behaviour_loopStart (found : loopBody rest = some (body, after)) :
    behaviour (.loopStart :: rest) = (behaviour body).loop.andThen (behaviour after) := by
  rw [← loop_behaviour]
  refine ext fun s fault final => ?_
  constructor
  · rintro ⟨_, _, evaluated⟩
    cases evaluated with
    | unclosed unclosed => simp [loopBody_eq_none_iff.2 unclosed] at found
    | perform plain => simp [Token.isBracket] at plain
    | refuse plain => simp [Token.isBracket] at plain
    | pass balanced looped rest =>
      cases (loopBody_append balanced _).symm.trans found
      exact .inr ⟨_, ⟨_, _, looped⟩, _, _, rest⟩
    | fail balanced looped =>
      cases (loopBody_append balanced _).symm.trans found
      exact .inl ⟨by simp, _, _, looped⟩
  · obtain ⟨rfl, balanced⟩ := loopBody_eq_some_iff.1 found
    rintro (⟨failed, _, _, looped⟩ | ⟨_, ⟨_, _, looped⟩, _, _, rest⟩)
    · obtain ⟨fault, rfl⟩ := Option.ne_none_iff_exists'.1 failed
      exact ⟨_, _, .fail balanced looped⟩
    · exact ⟨_, _, .pass balanced looped rest⟩

theorem behaviour_append (balanced : Balanced xs) (ys : List Token) :
    behaviour (xs ++ ys) = (behaviour xs).andThen (behaviour ys) := by
  refine Balanced.induction ?nil ?plain ?loop balanced
  case nil => rw [List.nil_append, behaviour_nil, skip_andThen]
  case plain =>
    intro token rest plain ih
    rw [List.cons_append, behaviour_plain plain, behaviour_plain plain, ih, andThen_assoc]
  case loop =>
    intro body after balanced _ ih
    rw [List.append_assoc, List.cons_append, List.cons_append, List.cons_append,
      behaviour_loopStart (loopBody_append balanced _),
      behaviour_loopStart (loopBody_append balanced _), ih, andThen_assoc]

theorem behaviour_of_loop (balanced : Balanced body) :
    behaviour (.loopStart :: body ++ [.loopEnd]) = (behaviour body).loop := by
  rw [List.cons_append, behaviour_loopStart (loopBody_append balanced []), behaviour_nil,
    andThen_skip]

/-- A loop that opens before the stretches ends before them, around them, or nowhere. -/
theorem behaviour_loopStart_congr {before : List Token} (after : List Token)
    (balanced : Balanced xs) (balanced' : Balanced ys)
    (shorter : ∀ before' after' : List Token, before'.length ≤ before.length →
      behaviour (before' ++ (xs ++ after')) = behaviour (before' ++ (ys ++ after'))) :
    behaviour (.loopStart :: (before ++ (xs ++ after))) =
      behaviour (.loopStart :: (before ++ (ys ++ after))) := by
  cases ended : loopBody before with
  | some split =>
    obtain ⟨body, between⟩ := split
    rw [behaviour_loopStart (loopBody_followed ended _),
      behaviour_loopStart (loopBody_followed ended _),
      shorter between after (length_after_loopBody ended)]
  | none =>
    obtain ⟨opened, counted⟩ := openAfter_of_unclosed ended
    have found := loopBody_around after counted balanced
    have found' := loopBody_around after counted balanced'
    cases closed : splitAtPartner opened after with
    | none =>
      rw [closed] at found found'
      rw [behaviour_unclosed found, behaviour_unclosed found']
    | some split =>
      obtain ⟨inside, rest⟩ := split
      rw [closed] at found found'
      rw [behaviour_loopStart found, behaviour_loopStart found',
        shorter before inside (Nat.le_refl _)]

/-- Balanced stretches that do the same can be exchanged anywhere, also within loops, and within what is
not balanced itself. -/
theorem behaviour_congr (before after : List Token) (balanced : Balanced xs) (balanced' : Balanced ys)
    (same : behaviour xs = behaviour ys) :
    behaviour (before ++ (xs ++ after)) = behaviour (before ++ (ys ++ after)) := by
  match before with
  | [] =>
    rw [List.nil_append, List.nil_append, behaviour_append balanced, behaviour_append balanced', same]
  | token :: before =>
    have shorter : ∀ before' after' : List Token, before'.length ≤ before.length →
        behaviour (before' ++ (xs ++ after')) = behaviour (before' ++ (ys ++ after')) :=
      fun before' after' _ => behaviour_congr before' after' balanced balanced' same
    rw [List.cons_append, List.cons_append]
    cases bracket : token.isBracket with
    | false =>
      rw [behaviour_plain bracket, behaviour_plain bracket, shorter before after (Nat.le_refl _)]
    | true =>
      rcases Token.isBracket_cases bracket with rfl | rfl
      · exact behaviour_loopStart_congr after balanced balanced' shorter
      · rw [behaviour_loopEnd, behaviour_loopEnd]
termination_by before.length

end Programs

/-! ## Runs of programs that do the same -/

section Runs

variable {s : Store} {tokens tokens' : List Token}

theorem halts_of_behaviour {n : Nat} {answer : Except Failure String} {final : Machine}
    (same : ∀ fault final, behaviour tokens s fault final → behaviour tokens' s fault final)
    (halts : Halts n (s.machine [.program tokens] 0) answer final) :
    ∃ n' final', Halts n' (s.machine [.program tokens'] 0) answer final' ∧
      final'.tape = final.tape ∧ final'.input = final.input := by
  obtain ⟨o, evaluated⟩ := exists_evaluates halts
  obtain ⟨_, ended, known, tape, input, -⟩ := evaluated.halts 0
  obtain ⟨-, rfl, rfl⟩ := halts.unique known
  obtain ⟨d, r, evaluated'⟩ := same o.fault o.store ⟨o.dispatched, o.retests, evaluated⟩
  obtain ⟨n', final', halts', tape', input', -⟩ := evaluated'.halts 0
  exact ⟨n', final', halts', tape'.trans tape.symm, input'.trans input.symm⟩

theorem runsAlike_of_behaviour {settings : Settings} {program program' input : String}
    (unlimited : settings.stepLimit = none)
    (same : ∀ fault final, behaviour (tokenize program) (fresh settings input) fault final ↔
      behaviour (tokenize program') (fresh settings input) fault final) :
    RunsAlike (Machine.start settings program input) (Machine.start settings program' input) := by
  rw [start_eq_machine unlimited, start_eq_machine unlimited]
  refine .of_halts ?_ ?_
  · intro n answer final halts
    exact halts_of_behaviour (fun fault final => (same fault final).1) halts
  · intro n answer final halts
    obtain ⟨k, final', halts', -⟩ :=
      halts_of_behaviour (fun fault final => (same fault final).2) halts
    exact ⟨k, answer, final', halts'⟩

end Runs

end TapeMachine

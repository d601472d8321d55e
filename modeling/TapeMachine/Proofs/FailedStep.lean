import TapeMachine.Proofs.FrameStack
import TapeMachine.Proofs.StepBudget

/-! What a step that fails leaves behind. The tape, the input, the pending output and all frames but the
top one are as before, and the top frame stands behind the token that failed. A step that the limit
refuses changes nothing at all, so every step after it is refused too. -/
namespace TapeMachine

open Machine

namespace Frame

/-- The second frame is the first one, gone past the token at its cursor without entering a loop. -/
structure Passed (token : Token) (f f' : Frame) : Prop where
  here : f.tokens[f.cursor]? = some token
  tokens : f'.tokens = f.tokens
  isLoop : f'.isLoop = f.isLoop
  cursor : f'.cursor = f.cursor + 1
  aligned : f'.Aligned
  balance : f'.balance = f.balance - if token = .loopEnd then 1 else 0

theorem Aligned.passed {tokens rest : List Token} {token : Token} {balance : Int} {isLoop : Bool}
    (aligned : Aligned ⟨tokens, token :: rest, balance, isLoop⟩) :
    Passed token ⟨tokens, token :: rest, balance, isLoop⟩
      ⟨tokens, rest, balance - if token = .loopEnd then 1 else 0, isLoop⟩ := by
  obtain ⟨inside, same⟩ := aligned.next rfl
  have cursor := cursor_seek inside
  have behind := aligned_seek inside
  rw [same] at cursor behind
  exact ⟨aligned.getElem?, rfl, rfl, cursor, ⟨behind.cursor_le, behind.rest_eq⟩, rfl⟩

end Frame

/-- A step that fails, and not for the limit, has gone past one token and counted it. -/
theorem Transition.of_fault {m : Machine} {taken : Step} {fault : Fault}
    (transition : Transition m taken) (failed : taken.answer = .error fault)
    (granted : ∀ limit, fault ≠ .stepLimitExceeded limit) :
    ∃ tokens token rest balance isLoop outer,
      m.frames = ⟨tokens, token :: rest, balance, isLoop⟩ :: outer ∧
      taken.next = m.advance
        (⟨tokens, rest, balance - if token = .loopEnd then 1 else 0, isLoop⟩ :: outer) m.store := by
  cases transition with
  | exhausted =>
    cases failed
    exact absurd rfl (granted _)
  | refuse frames _ plain =>
    refine ⟨_, _, _, _, _, _, frames, ?_⟩
    rw [if_neg (Token.ne_of_plain plain).2, Int.sub_zero]
  | unclosed frames =>
    refine ⟨_, _, _, _, _, _, frames, ?_⟩
    rw [if_neg (by decide), Int.sub_zero]
  | stray frames => exact ⟨_, _, _, _, _, _, frames, by rw [if_pos rfl]⟩
  | _ => simp at failed

/-- A machine that a step leaves as it was takes the same step for ever. -/
theorem after_of_step_next_eq {m : Machine} (same : m.step.next = m) (n : Nat) : m.after n = m := by
  induction n with
  | zero => rfl
  | succ n ih => rw [after, ih, same]

/-- A step that fails touches no data. Refused by the limit it touches nothing; else it counts, and the
top frame is left behind the token that failed. -/
theorem failed_step_keeps_data {settings : Settings} {program input : String} {m : Machine}
    (loaded : load settings program input = .ok m) (v : Machine) (reached : Reachable m v)
    (fault : Fault) (failed : v.step.answer = .error fault) :
    let w := v.step.next
    (w.tape = v.tape ∧ w.input = v.input ∧ w.output = v.output ∧ w.stepLimit = v.stepLimit ∧
      w.depth = v.depth ∧ w.frames.tail = v.frames.tail) ∧
    (∀ limit, fault = .stepLimitExceeded limit →
      w = v ∧ ∀ n, v.after n = v ∧ (v.after n).step.answer = .error fault) ∧
    ((∀ limit, fault ≠ .stepLimitExceeded limit) →
      w.steps = v.steps + 1 ∧ ∃ top top' outer token,
        v.frames = top :: outer ∧ w.frames = top' :: outer ∧ Frame.Passed token top top') := by
  obtain ⟨-, rfl⟩ := load_eq_ok_iff.1 loaded
  intro w
  by_cases refused : ∃ limit, fault = .stepLimitExceeded limit
  · obtain ⟨limit, rfl⟩ := refused
    have unchanged : w = v := (v.transition.of_exceeded failed).2.2
    refine ⟨by simp [unchanged], fun _ _ => ⟨unchanged, fun n => ?_⟩, fun granted => ?_⟩
    · have still := after_of_step_next_eq unchanged n
      exact ⟨still, by rw [still, failed]⟩
    · exact absurd rfl (granted limit)
  · have granted : ∀ limit, fault ≠ .stepLimitExceeded limit := fun limit same =>
      refused ⟨limit, same⟩
    obtain ⟨tokens, token, rest, balance, isLoop, outer, frames, next⟩ :=
      v.transition.of_fault failed granted
    obtain ⟨_, _, placed⟩ := reached.placed frames
    have counted : w = v.advance _ v.store := next
    rw [counted]
    refine ⟨⟨rfl, rfl, rfl, rfl, by simp [depth, frames], by simp [frames]⟩, ?_, fun _ => ?_⟩
    · exact fun limit same => absurd same (granted limit)
    · exact ⟨rfl, _, _, outer, token, frames, rfl, placed.aligned.passed⟩

/-- A character that is no instruction and a read too many, both inside a loop, and then the limit. -/
theorem failed_steps_in_loop_keep_data :
    let m := Machine.start { stepLimit := some 4 } "+[x,]" ""
    let v := m.after 2
    load { stepLimit := some 4 } "+[x,]" "" = .ok m ∧ Reachable m v ∧ v.depth = 1 ∧
      v.step.answer = .error (.undefinedToken 'x') ∧
      (∃ top top' outer token, v.frames = top :: outer ∧ v.step.next.frames = top' :: outer ∧
        Frame.Passed token top top') ∧
      (m.after 3).step.answer = .error .emptyInput ∧ (m.after 4).tape = (m.after 3).tape ∧
      (m.after 4).step.answer = .error (.stepLimitExceeded 4) ∧
      ∀ n, ((m.after 4).after n).step.answer = .error (.stepLimitExceeded 4) := by
  intro m v
  have loaded : load { stepLimit := some 4 } "+[x,]" "" = .ok m := rfl
  have reached : Reachable m v := Reachable.start.step.step
  have inside : v.depth = 1 := by decide
  have undefined : v.step.answer = .error (.undefinedToken 'x') := by decide
  have starved : (m.after 3).step.answer = .error .emptyInput := by decide
  have exceeded : (m.after 4).step.answer = .error (.stepLimitExceeded 4) := by decide
  obtain ⟨-, -, passed⟩ := failed_step_keeps_data loaded v reached _ undefined
  obtain ⟨⟨tape, -⟩, -, -⟩ := failed_step_keeps_data loaded _ reached.step _ starved
  obtain ⟨-, still, -⟩ := failed_step_keeps_data loaded _ reached.step.step _ exceeded
  exact ⟨loaded, reached, inside, undefined, (passed (by simp)).2, starved, tape, exceeded,
    fun n => ((still 4 rfl).2 n).2⟩

end TapeMachine

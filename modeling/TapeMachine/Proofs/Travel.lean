import TapeMachine.Proofs.StraightLine

/-! What a machine does with its tape, step by step. The tape is always the one that these actions make of
the first tape; so they tell where the pointer has been, and how far the steps take it from where it was. -/
namespace TapeMachine

open Machine

/-- What the token does to the tape if it is performed now. -/
def Store.action? (s : Store) : Token → Option TapeAction
  | .input => s.input.head?.map fun char => .fill (Int64.ofNat char.toNat)
  | token => token.action?

namespace Machine

/-- What the next step does to the tape, if anything. -/
def action? (m : Machine) : Option TapeAction :=
  match m.frames with
  | ⟨_, token :: _, _, _⟩ :: _ => if m.HasBudget then m.store.action? token else none
  | _ => none

/-- What so many steps do to the tape. -/
def actions (m : Machine) : Nat → List TapeAction
  | 0 => []
  | n + 1 => m.actions n ++ (m.after n).action?.toList

end Machine

/-- Steps lead from one machine to the other and take the pointer so many cells to the right. The two others
say how far to the left and to the right it has been on the way. -/
def Travels (left right distance : Int) (m m' : Machine) : Prop :=
  ∃ n, Proceeds n m m' ∧ leftmost (m.actions n) = left ∧ rightmost (m.actions n) = right ∧
    displacement (m.actions n) = distance

section Actions

variable {s s' : Store} {token : Token} {tokens rest body after : List Token} {balance : Int}
  {isLoop : Bool} {outer : List Frame} {m : Machine}

theorem Store.tape_of_perform (performed : s.perform token = .ok s') :
    s'.tape = (s.action? token).toList.foldl Tape.act s.tape := by
  cases token with
  | input =>
    simp only [Store.perform] at performed
    split at performed
    · simp at performed
    · rename_i unread
      cases performed
      rw [action?, unread]
      rfl
  | loopStart | loopEnd | undefined => simp [Store.perform] at performed
  | _ =>
    cases performed
    rfl

theorem action?_of_frames (frames : m.frames = ⟨tokens, token :: rest, balance, isLoop⟩ :: outer)
    (budget : m.HasBudget) : m.action? = m.store.action? token := by
  rw [action?, frames]
  exact if_pos budget

theorem Store.action?_of_fault {fault : Fault} (refused : s.perform token = .error fault) :
    s.action? token = none := by
  cases token with
  | input =>
    simp only [Store.perform] at refused
    split at refused
    · rename_i unread
      rw [action?, unread]
      rfl
    · simp at refused
  | loopStart | loopEnd | undefined => rfl
  | _ => simp [Store.perform] at refused

theorem step_tape (m : Machine) : m.step.next.tape = m.action?.toList.foldl Tape.act m.tape := by
  have transition := m.transition
  generalize m.step = taken at transition
  cases transition with
  | idle frames | finish frames | leave frames | again frames =>
    rw [action?, frames]
    rfl
  | perform frames budget plain performed =>
    rw [action?_of_frames frames budget]
    exact Store.tape_of_perform performed
  | refuse frames budget plain refused =>
    rw [action?_of_frames frames budget, Store.action?_of_fault refused]
    rfl
  | skip frames budget | enter frames budget | unclosed frames budget | stray frames budget =>
    rw [action?_of_frames frames budget]
    rfl
  | exhausted _ limited spent =>
    have none : m.action? = none := by
      rw [action?]
      split
      · exact if_neg fun budget => Nat.not_lt.2 spent (budget _ limited)
      · rfl
    rw [none]
    rfl

/-- The tape after any number of steps is what their actions have made of it. -/
theorem after_tape (m : Machine) (n : Nat) : (m.after n).tape = (m.actions n).foldl Tape.act m.tape := by
  induction n with
  | zero => rfl
  | succ n ih => rw [Machine.after, step_tape, ih, actions, List.foldl_append]

theorem actions_add (m : Machine) (n k : Nat) :
    m.actions (n + k) = m.actions n ++ (m.after n).actions k := by
  induction k with
  | zero => simp [actions]
  | succ k ih => rw [← Nat.add_assoc, actions, ih, actions, after_add, List.append_assoc]

end Actions

namespace Travels

variable {m m' m'' : Machine} {left right left' right' distance further : Int}

theorem refl (m : Machine) : Travels 0 0 0 m m :=
  ⟨0, .refl m, rfl, rfl, rfl⟩

theorem trans (first : Travels left right distance m m') (second : Travels left' right' further m' m'') :
    Travels (min left (distance + left')) (max right (distance + right')) (distance + further) m m'' := by
  obtain ⟨n, proceeds, rfl, rfl, rfl⟩ := first
  obtain ⟨k, proceeds', rfl, rfl, rfl⟩ := second
  refine ⟨n + k, proceeds.trans proceeds', ?_⟩
  rw [actions_add, displacement_append, leftmost_append, rightmost_append, ← proceeds.eq_after]
  exact ⟨rfl, rfl, rfl⟩

theorem of_step (taken : m.step.answer = .ok true ∧ m.step.next = m') :
    Travels (leftmost m.action?.toList) (rightmost m.action?.toList) (displacement m.action?.toList) m m' :=
  ⟨1, .of_step taken (.refl m'), rfl, rfl, rfl⟩

/-- One after the other, two ways that lead back. -/
theorem trans_home (first : Travels 0 right 0 m m') (second : Travels 0 right' 0 m' m'') :
    Travels 0 (max right right') 0 m m'' := by
  simpa using first.trans second

end Travels

section Frames

variable {s s' : Store} {whole rest body after : List Token} {token : Token} {action : TapeAction}
  {balance : Int} {isLoop : Bool} {outer : List Frame} {steps : Nat}

theorem travels_token (works : token.action? = some action) :
    Travels (min 0 action.shift) (max 0 action.shift) action.shift
      (s.machine (⟨whole, token :: rest, balance, isLoop⟩ :: outer) steps)
      (Store.machine { s with tape := s.tape.act action } (⟨whole, rest, balance, isLoop⟩ :: outer)
        (steps + 1)) := by
  have travels := Travels.of_step (@step_perform s whole rest token balance isLoop outer steps _
    (isBracket_of_action works) (s.perform_of_action works))
  have done : (s.machine (⟨whole, token :: rest, balance, isLoop⟩ :: outer) steps).action? = some action := by
    rw [action?_of_frames rfl Store.machine_hasBudget]
    cases token <;> cases works <;> rfl
  rw [done] at travels
  simpa [displacement, leftmost, rightmost, places] using travels

theorem travels_loopStart (found : loopBody rest = some (body, after)) :
    Travels 0 0 0 (s.machine (⟨whole, .loopStart :: rest, balance, isLoop⟩ :: outer) steps)
      (s.machine (s.loopFrames body (⟨whole, after, balance, isLoop⟩ :: outer)) (steps + 1)) := by
  have travels := Travels.of_step (@step_loopStart s whole rest body after balance isLoop outer steps found)
  rwa [action?_of_frames rfl Store.machine_hasBudget] at travels

theorem travels_loop_end (inside : outer ≠ []) :
    Travels 0 0 0 (s.machine (⟨body, [], 0, true⟩ :: outer) steps)
      (s.machine (s.loopFrames body outer) (steps + 1)) :=
  Travels.of_step (@step_loop_end s body outer steps inside)

end Frames

end TapeMachine

import TapeMachine.Proofs.BracketBalance
import TapeMachine.Proofs.StepBudget

/-! One program behind another. As long as a balanced program runs, no search for the end of a loop looks
past it, so what stands behind it does not matter; once it has ended, what stands behind it runs like a
program of its own. -/
namespace TapeMachine

open Machine

/-- The frames of two machines of which the second has `more` to run behind all that is left to the first.
What is left is balanced, so that no loop reaches into the rest; if there is no rest, it may be
anything. -/
inductive Prolonged (more : List Token) : List Frame → List Frame → Prop
  | ended : more = [] → Prolonged more [] []
  | program {tokens tokens' rest balance balance'} : more = [] ∨ Balanced rest →
      balance ≤ 0 → balance' ≤ 0 →
      Prolonged more [⟨tokens, rest, balance, false⟩] [⟨tokens', rest ++ more, balance', false⟩]
  | loop {tokens rest balance outer outer'} : outer ≠ [] → Prolonged more outer outer' →
      Prolonged more (⟨tokens, rest, balance, true⟩ :: outer) (⟨tokens, rest, balance, true⟩ :: outer')

namespace Prolonged

variable {more tokens rest stretch left : List Token} {token : Token} {balance : Int}
  {isLoop : Bool} {outer frames frames' : List Frame}

theorem length_eq (prolonged : Prolonged more frames frames') : frames.length = frames'.length := by
  induction prolonged with
  | ended | program => rfl
  | loop _ _ ih => rw [List.length_cons, List.length_cons, ih]

theorem isEmpty_eq (prolonged : Prolonged more frames frames') :
    frames.isEmpty = frames'.isEmpty := by
  cases prolonged <;> rfl

/-- Both go past a balanced stretch alike. -/
theorem move (balanced : Balanced stretch)
    (prolonged : Prolonged more (⟨tokens, stretch ++ left, balance, isLoop⟩ :: outer) frames') :
    ∃ tokens' left' balance' outer',
      frames' = ⟨tokens', stretch ++ left', balance', isLoop⟩ :: outer' ∧
        Prolonged more (⟨tokens, left, balance, isLoop⟩ :: outer)
          (⟨tokens', left', balance', isLoop⟩ :: outer') := by
  cases prolonged with
  | @program _ tokens' _ _ balance' closed met met' =>
    refine ⟨tokens', left ++ more, balance', [], by rw [List.append_assoc], ?_⟩
    exact .program (closed.imp_right fun whole => whole.of_append balanced) met met'
  | loop inside below => exact ⟨_, _, _, _, rfl, .loop inside below⟩

theorem loopStart {body after : List Token} (found : loopBody rest = some (body, after))
    (prolonged : Prolonged more (⟨tokens, .loopStart :: rest, balance, isLoop⟩ :: outer) frames') :
    ∃ tokens' rest' after' balance' outer',
      frames' = ⟨tokens', .loopStart :: rest', balance', isLoop⟩ :: outer' ∧
        loopBody rest' = some (body, after') ∧
        Prolonged more (⟨tokens, after, balance, isLoop⟩ :: outer)
          (⟨tokens', after', balance', isLoop⟩ :: outer') := by
  obtain ⟨rfl, balanced⟩ := loopBody_eq_some_iff.1 found
  have split : ∀ behind, .loopStart :: (body ++ .loopEnd :: behind) =
      (.loopStart :: body ++ [.loopEnd]) ++ behind := by simp
  rw [split] at prolonged
  obtain ⟨tokens', after', balance', outer', frames', next⟩ := prolonged.move (balanced_loop balanced)
  rw [← split] at frames'
  exact ⟨tokens', _, after', balance', outer', frames', loopBody_append balanced after', next⟩

/-- A bracket that fails for the one has nothing behind it for the other, and fails there too. -/
theorem unmatched (failing : token = .loopEnd ∨ token = .loopStart ∧ loopBody rest = none)
    (prolonged : Prolonged more (⟨tokens, token :: rest, balance, isLoop⟩ :: outer) frames') :
    ∃ tokens' balance' outer', frames' = ⟨tokens', token :: rest, balance', isLoop⟩ :: outer' ∧
      (balance - 1 < 0 ↔ balance' - 1 < 0) ∧
      Prolonged more (⟨tokens, rest, balance, isLoop⟩ :: outer)
        (⟨tokens', rest, balance', isLoop⟩ :: outer') ∧
      Prolonged more (⟨tokens, rest, balance - 1, isLoop⟩ :: outer)
        (⟨tokens', rest, balance' - 1, isLoop⟩ :: outer') := by
  cases prolonged with
  | @program _ tokens' _ _ balance' closed met met' =>
    have nothing : more = [] := by
      refine closed.resolve_right fun whole => ?_
      rcases failing with rfl | ⟨rfl, unclosed⟩
      · exact not_balanced_loopEnd rest whole
      · exact whole.loop_closed unclosed
    subst nothing
    have same : ∀ b b' : Int, b ≤ 0 → b' ≤ 0 →
        Prolonged [] [⟨tokens, rest, b, false⟩] [⟨tokens', rest, b', false⟩] := by
      intro b b' low low'
      have program := @Prolonged.program [] tokens tokens' rest b b' (.inl rfl) low low'
      rwa [List.append_nil] at program
    refine ⟨tokens', balance', [], by rw [List.append_nil], by omega, same _ _ met met', ?_⟩
    exact same _ _ (by omega) (by omega)
  | loop inside below => exact ⟨_, _, _, rfl, Iff.rfl, .loop inside below, .loop inside below⟩

end Prolonged

/-- The second machine does what the first does, has `more` to run behind it, and has counted `earlier`
steps before. -/
structure Prolongs (more : List Token) (earlier : Nat) (m m' : Machine) : Prop where
  frames : Prolonged more m.frames m'.frames
  store : m'.store = m.store
  steps : m'.steps = earlier + m.steps
  unlimited : m.stepLimit = none
  unlimited' : m'.stepLimit = none

theorem Proceeds.running {n : Nat} {m m' : Machine} (proceeds : Proceeds n m m')
    (running : m.frames ≠ []) : m'.frames ≠ [] := by
  induction proceeds with
  | refl m => exact running
  | @step _ m _ onward _ ih =>
    refine ih fun ended => ?_
    have left := m.transition.running_of_ok onward
    simp [ended] at left

namespace Prolongs

variable {more : List Token} {earlier n : Nat} {m m' v final final' : Machine}
  {answer : Except Failure String}

theorem advance {s s' : Store} {frames frames' : List Frame} (prolongs : Prolongs more earlier m m')
    (next : Prolonged more frames frames') (same : s' = s) :
    Prolongs more earlier (m.advance frames s) (m'.advance frames' s') :=
  ⟨next, same, congrArg (· + 1) prolongs.steps, prolongs.unlimited, prolongs.unlimited'⟩

/-- Every transition but the end of the shorter program is one of the longer program too. -/
theorem transition {taken : Step} (prolongs : Prolongs more earlier m m')
    (transition : Transition m taken) (going : more = [] ∨ taken.answer ≠ .ok false) :
    ∃ taken', Transition m' taken' ∧ taken'.answer = taken.answer ∧
      Prolongs more earlier taken.next taken'.next := by
  have budget := hasBudget_of_unlimited prolongs.unlimited'
  have same := prolongs.frames
  have store := prolongs.store
  have cell : m'.tape = m.tape := congrArg Store.tape store
  cases transition with
  | idle ended =>
    rw [ended] at same
    generalize frames' : m'.frames = others at same
    cases same with
    | ended nothing => exact ⟨_, .idle frames', rfl, prolongs⟩
  | finish frames =>
    rw [frames] at same
    generalize frames' : m'.frames = others at same
    cases same with
    | program =>
      obtain rfl : more = [] := going.resolve_right (by simp)
      exact ⟨_, .finish frames', rfl, .ended rfl, store, prolongs.steps, prolongs.unlimited,
        prolongs.unlimited'⟩
  | exhausted _ limited _ =>
    rw [prolongs.unlimited] at limited
    cases limited
  | perform frames _ plain performed =>
    rw [frames] at same
    obtain ⟨_, _, _, _, frames', next⟩ := same.move (balanced_plain plain)
    rw [← store] at performed
    exact ⟨_, .perform frames' budget plain performed, rfl, prolongs.advance next rfl⟩
  | refuse frames _ plain refused =>
    rw [frames] at same
    obtain ⟨_, _, _, _, frames', next⟩ := same.move (balanced_plain plain)
    rw [← store] at refused
    exact ⟨_, .refuse frames' budget plain refused, rfl, prolongs.advance next store⟩
  | skip frames _ found zero =>
    rw [frames] at same
    obtain ⟨_, _, _, _, _, frames', found', next⟩ := same.loopStart found
    rw [← cell] at zero
    exact ⟨_, .skip frames' budget found' zero, rfl, prolongs.advance next store⟩
  | enter frames _ found nonzero =>
    rw [frames] at same
    obtain ⟨_, _, _, _, _, frames', found', next⟩ := same.loopStart found
    rw [← cell] at nonzero
    exact ⟨_, .enter frames' budget found' nonzero, rfl,
      prolongs.advance (.loop (List.cons_ne_nil _ _) next) store⟩
  | unclosed frames _ unclosed =>
    rw [frames] at same
    obtain ⟨_, _, _, frames', -, next, -⟩ := same.unmatched (.inr ⟨rfl, unclosed⟩)
    exact ⟨_, .unclosed frames' budget unclosed, rfl, prolongs.advance next store⟩
  | stray frames _ =>
    rw [frames] at same
    obtain ⟨_, _, _, frames', fault, -, next⟩ := same.unmatched (.inl rfl)
    exact ⟨_, .stray frames' budget, by simp only [fault], prolongs.advance next store⟩
  | leave frames _ zero =>
    rw [frames] at same
    generalize frames' : m'.frames = others at same
    cases same with
    | loop _ below =>
      rw [← cell] at zero
      refine ⟨_, .leave frames' budget zero, ?_, prolongs.advance below store⟩
      simp only [below.isEmpty_eq]
  | again frames _ nonzero =>
    rw [frames] at same
    generalize frames' : m'.frames = others at same
    cases same with
    | loop inside below =>
      rw [← cell] at nonzero
      exact ⟨_, .again frames' budget nonzero, rfl, prolongs.advance (.loop inside below) store⟩

theorem step (prolongs : Prolongs more earlier m m')
    (going : more = [] ∨ m.step.answer ≠ .ok false) :
    m'.step.answer = m.step.answer ∧ Prolongs more earlier m.step.next m'.step.next := by
  obtain ⟨taken', transition', answers, next⟩ := prolongs.transition m.transition going
  rw [step_of_transition transition']
  exact ⟨answers, next⟩

theorem tape (prolongs : Prolongs more earlier m m') : m'.tape = m.tape :=
  congrArg Store.tape prolongs.store

theorem input (prolongs : Prolongs more earlier m m') : m'.input = m.input :=
  congrArg Store.input prolongs.store

theorem output (prolongs : Prolongs more earlier m m') : m'.output = m.output :=
  congrArg Store.output prolongs.store

/-- With nothing behind, the two go on alike for ever, failed steps included. -/
theorem after (prolongs : Prolongs [] earlier m m') (n : Nat) :
    Prolongs [] earlier (m.after n) (m'.after n) := by
  induction n with
  | zero => exact prolongs
  | succ n ih => exact (ih.step (.inl rfl)).2

theorem simulation (more : List Token) (earlier : Nat) :
    Simulation (fun last => more ≠ [] ∧ last = .ok false) (Prolongs more earlier) where
  output := Prolongs.output
  step prolongs kept := prolongs.step
    (Decidable.or_iff_not_imp_left.2 fun nonempty last => kept ⟨nonempty, last⟩)

theorem proceeds (prolongs : Prolongs more earlier m m') (first : Proceeds n m v) :
    Proceeds n m' (m'.after n) ∧ Prolongs more earlier v (m'.after n) :=
  (simulation more earlier).proceeds (by simp) prolongs first

theorem halts (prolongs : Prolongs more earlier m m') (halts : Halts n m answer final)
    (going : more = [] ∨ ∃ failure, answer = .error failure) :
    ∃ final', Halts n m' answer final' ∧ final'.tape = final.tape ∧ final'.input = final.input ∧
      final'.steps = earlier + final.steps := by
  have kept : ¬(more ≠ [] ∧ lastAnswer answer = .ok false) := by
    rintro ⟨nonempty, ended⟩
    obtain ⟨failure, rfl⟩ := going.resolve_left nonempty
    simp [lastAnswer] at ended
  obtain ⟨_, _, same, ⟨rfl, halts'⟩ | ⟨rfl, halts'⟩⟩ :=
    (simulation more earlier).halts (by simp) prolongs halts kept
  · exact ⟨_, halts', same.tape, same.input, same.steps⟩
  · exact ⟨_, halts', same.tape, same.input, same.steps⟩

/-- The longer program does not end before the shorter one. -/
theorem ends (prolongs : Prolongs more earlier m m') (halts : Halts n m' answer final') :
    ∃ k answer final, Halts k m answer final := by
  rcases proceeds_or_halts m (n + 1) with first | ⟨k, -, answer, final, ended⟩
  · obtain ⟨left, beyond, -⟩ := (prolongs.proceeds first).1.rest_halts halts
    omega
  · exact ⟨k, answer, final, ended⟩

theorem start {settings : Settings} {first second input : String}
    (unlimited : settings.stepLimit = none) (balanced : Balanced (tokenize first)) :
    Prolongs (tokenize second) 0 (Machine.start settings first input)
      (Machine.start settings (first ++ second) input) := by
  refine ⟨?_, rfl, rfl, unlimited, unlimited⟩
  have frames := @Prolonged.program (tokenize second) (tokenize first) (tokenize (first ++ second))
    _ 0 0 (.inr balanced) (Int.le_refl 0) (Int.le_refl 0)
  rwa [← tokenize_append] at frames

/-- Where the first program ends, the longer one stands before the second, which it runs as a program of
its own from there. -/
theorem second (prolongs : Prolongs more earlier m m') (running : m.frames ≠ [])
    (ended : m.step.answer = .ok false) :
    m.step.next.store = m.store ∧ m.step.next.steps = m.steps ∧ m'.depth = 0 ∧
      Prolongs [] (earlier + m.steps) (m.store.machine [.program more] 0) m' := by
  have transition := m.transition
  have same := prolongs.frames
  generalize m.step = taken at transition ended
  cases transition with
  | idle idle => exact absurd idle running
  | finish frames =>
    rw [frames] at same
    generalize frames' : m'.frames = others at same
    cases same with
    | @program _ tokens' _ _ balance' _ _ met' =>
      refine ⟨rfl, rfl, by simp [depth, frames'], ?_, prolongs.store, prolongs.steps, rfl,
        prolongs.unlimited'⟩
      have behind := @Prolonged.program [] more tokens' more 0 balance' (.inl rfl) (Int.le_refl 0) met'
      rw [frames']
      rwa [List.append_nil] at behind
  | leave frames =>
    rw [frames] at same
    generalize m'.frames = others at same
    cases same with
    | loop inside _ => simp [inside] at ended
  | _ => simp at ended

/-- Once the first program has ended, all its steps are steps of the whole, and the second is left. -/
theorem first_finished {settings : Settings} {first second input output : String}
    (unlimited : settings.stepLimit = none) (balanced : Balanced (tokenize first))
    (halts : Halts n (Machine.start settings first input) (.ok output) final) :
    let whole := Machine.start settings (first ++ second) input
    final.steps = n ∧ Proceeds n whole (whole.after n) ∧ (whole.after n).depth = 0 ∧
      Prolongs [] n (Store.machine ⟨final.tape, final.input, output⟩ [.program (tokenize second)] 0)
        (whole.after n) := by
  intro whole
  obtain ⟨proceeds, last, pending, rfl⟩ := halts.last_finished
  have prolongs := @start settings first second input unlimited balanced
  obtain ⟨proceeds', stands⟩ := prolongs.proceeds proceeds
  have running := proceeds.running (List.cons_ne_nil _ _)
  obtain ⟨store, steps, depth, behind⟩ := stands.second running last
  have counted : ((Machine.start settings first input).after n).steps = 0 + n :=
    Reachable.start.steps_of_proceeds proceeds
  rw [Nat.zero_add] at counted
  rw [← store, counted, Nat.zero_add] at behind
  rw [← pending]
  exact ⟨steps.trans counted, proceeds', depth, behind⟩

/-- The run of the whole ends as the run of what is left does. -/
theorem runsAlike (prolongs : Prolongs [] earlier m v) (first : Proceeds n m' v) :
    RunsAlike m m' ∧ ∀ fuel fuel' r r', m.run fuel = some r → m'.run fuel' = some r' →
      r'.machine.steps = earlier + r.machine.steps := by
  refine ⟨.of_halts ?_ ?_, ?_⟩
  · intro k answer final halts
    obtain ⟨final', halts', tape, input, -⟩ := prolongs.halts halts (.inl rfl)
    exact ⟨n + k, final', first.halts halts', tape, input⟩
  · intro k answer final halts
    obtain ⟨left, -, rest⟩ := first.rest_halts halts
    exact prolongs.ends rest
  · intro fuel fuel' r r' ended ended'
    obtain ⟨k, halts⟩ := halts_of_run ended
    obtain ⟨k', halts'⟩ := halts_of_run ended'
    obtain ⟨final', halts'', -, -, steps⟩ := prolongs.halts halts (.inl rfl)
    obtain ⟨-, -, same⟩ := halts'.unique (first.halts halts'')
    rw [same, steps]

end Prolongs

/-- However often both are stepped, failed steps included, the second machine answers and holds what the
first does, and has counted so many steps more. -/
structure StepsAlike (earlier : Nat) (m m' : Machine) : Prop where
  answer : ∀ k, (m'.after k).step.answer = (m.after k).step.answer
  tape : ∀ k, (m'.after k).tape = (m.after k).tape
  input : ∀ k, (m'.after k).input = (m.after k).input
  output : ∀ k, (m'.after k).output = (m.after k).output
  depth : ∀ k, (m'.after k).depth = (m.after k).depth
  steps : ∀ k, (m'.after k).steps = earlier + (m.after k).steps

theorem Prolongs.stepsAlike {earlier : Nat} {m m' : Machine} (prolongs : Prolongs [] earlier m m') :
    StepsAlike earlier m m' where
  answer k := ((prolongs.after k).step (.inl rfl)).1
  tape k := (prolongs.after k).tape
  input k := (prolongs.after k).input
  output k := (prolongs.after k).output
  depth k := by rw [depth, depth, (prolongs.after k).frames.length_eq]
  steps k := (prolongs.after k).steps

/-- A balanced program, and any program behind it, run without a limit. If the first ends well, the whole
comes after as many steps to where the second begins, on the tape, the input and the output that the first
leaves, and goes on like the second alone. If the first fails, or does not end, so does the whole. -/
theorem balanced_program_then_any {settings : Settings} {first second input : String} {m m' : Machine}
    (loaded : load settings first input = .ok m)
    (loaded' : load settings (first ++ second) input = .ok m')
    (unlimited : settings.stepLimit = none) (balanced : Balanced (tokenize first)) :
    (∀ fuel r output, m.run fuel = some r → r.answer = .ok output →
      let n := r.machine.steps
      let v := m'.after n
      let alone := Store.machine ⟨r.machine.tape, r.machine.input, output⟩
        [.program (tokenize second)] 0
      Proceeds n m' v ∧ v.depth = 0 ∧ v.steps = n ∧ v.tape = r.machine.tape ∧
        v.input = r.machine.input ∧ v.output = output ∧ StepsAlike n alone v ∧ RunsAlike alone m' ∧
        ∀ fuel fuel' r₁ r₂, alone.run fuel = some r₁ → m'.run fuel' = some r₂ →
          r₂.machine.steps = n + r₁.machine.steps) ∧
    (∀ fuel r failure, m.run fuel = some r → r.answer = .error failure →
      ∃ r', m'.run fuel = some r' ∧ r'.answer = .error failure ∧
        r'.machine.steps = r.machine.steps ∧ r'.machine.tape = r.machine.tape ∧
        r'.machine.input = r.machine.input) ∧
    ((∀ fuel, m.run fuel = none) → ∀ fuel, m'.run fuel = none) := by
  obtain ⟨-, rfl⟩ := load_eq_ok_iff.1 loaded
  obtain ⟨-, rfl⟩ := load_eq_ok_iff.1 loaded'
  have prolongs := @Prolongs.start settings first second input unlimited balanced
  refine ⟨?_, ?_, ?_⟩
  · intro fuel r output ended answer
    obtain ⟨k, halts⟩ := halts_of_run ended
    rw [answer] at halts
    obtain ⟨counted, proceeds, depth, behind⟩ :=
      @Prolongs.first_finished _ _ _ _ second _ _ unlimited balanced halts
    rw [counted]
    obtain ⟨runs, total⟩ := behind.runsAlike proceeds
    exact ⟨proceeds, depth, behind.steps, behind.tape, behind.input, behind.output,
      behind.stepsAlike, runs, total⟩
  · intro fuel r failure ended answer
    obtain ⟨n, short, halts⟩ := runAfter_iff_halts.1 ⟨r, ended, rfl, rfl⟩
    obtain ⟨final, halts', tape, input, steps⟩ := prolongs.halts halts (.inr ⟨failure, answer⟩)
    obtain ⟨r', ended', answer', machine⟩ := runAfter_iff_halts.2 ⟨n, short, halts'⟩
    rw [Nat.zero_add] at steps
    exact ⟨r', ended', answer'.trans answer, by rw [machine, steps], by rw [machine, tape],
      by rw [machine, input]⟩
  · intro endless fuel
    refine Option.eq_none_iff_forall_ne_some.2 fun r ended => ?_
    obtain ⟨n, halts⟩ := halts_of_run ended
    obtain ⟨k, answer, final, halts'⟩ := prolongs.ends halts
    obtain ⟨fuel', r', ended', -⟩ := halts'.run
    simp [endless fuel'] at ended'

/-- A `loopEnd` behind a program that ends after five steps fails at the sixth. Behind a program that
finds nothing to read it is never reached. -/
theorem stray_loopEnd_behind :
    let m := Machine.start {} ",[-]." "\x01"
    let m' := Machine.start {} (",[-]." ++ "]") "\x01"
    let starved := Machine.start {} ",[-]." ""
    let starved' := Machine.start {} (",[-]." ++ "]") ""
    load {} ",[-]." "\x01" = .ok m ∧ load {} (",[-]." ++ "]") "\x01" = .ok m' ∧
      Balanced (tokenize ",[-].") ∧
      (∃ r, m.run 6 = some r ∧ r.answer = .ok "\x00" ∧ r.machine.steps = 5) ∧
      (m'.after 5).depth = 0 ∧ (m'.after 5).output = "\x00" ∧
      (∃ r, m'.run 6 = some r ∧ r.answer = .error ⟨.invalidSyntax, "\x00"⟩ ∧ r.machine.steps = 6) ∧
      load {} ",[-]." "" = .ok starved ∧ load {} (",[-]." ++ "]") "" = .ok starved' ∧
      ∃ r', starved'.run 1 = some r' ∧ r'.answer = .error ⟨.emptyInput, ""⟩ := by
  intro m m' starved starved'
  have loaded : load {} ",[-]." "\x01" = .ok m := rfl
  have loaded' : load {} (",[-]." ++ "]") "\x01" = .ok m' := rfl
  have closed : Balanced (tokenize ",[-].") := by decide
  have ends : ((Machine.start {} ",[-]." "\x01").run 6).map
      (fun r => (r.answer, r.machine.steps)) = some (.ok "\x00", 5) := rfl
  obtain ⟨r, ran, shown⟩ := Option.map_eq_some_iff.1 ends
  obtain ⟨answer, counts⟩ := Prod.mk.inj shown
  have first := (balanced_program_then_any loaded loaded' rfl closed).1 6 r _ ran answer
  rw [counts] at first
  obtain ⟨-, depth, -, -, -, pending, -, alike, total⟩ := first
  have alone : ∃ r₁, (Store.machine ⟨r.machine.tape, r.machine.input, "\x00"⟩
      [.program (tokenize "]")] 0).run 1 = some r₁ ∧ r₁.answer = .error ⟨.invalidSyntax, "\x00"⟩ ∧
        r₁.machine.steps = 1 := ⟨_, rfl, rfl, rfl⟩
  obtain ⟨r₁, ran₁, failed, one⟩ := alone
  have stops : ((Machine.start {} (",[-]." ++ "]") "\x01").run 6).isSome := rfl
  obtain ⟨r₂, ran₂⟩ := Option.isSome_iff_exists.1 stops
  have same := (alike.same 1 6 r₁ r₂ ran₁ ran₂).1
  have taken := total 1 6 r₁ r₂ ran₁ ran₂
  rw [one] at taken
  have starved_loaded : load {} ",[-]." "" = .ok starved := rfl
  have starved_loaded' : load {} (",[-]." ++ "]") "" = .ok starved' := rfl
  have starves : ((Machine.start {} ",[-]." "").run 1).map Run.answer =
      some (.error ⟨.emptyInput, ""⟩) := rfl
  obtain ⟨r₃, ran₃, starving⟩ := Option.map_eq_some_iff.1 starves
  obtain ⟨r', ran', answer', -⟩ :=
    (balanced_program_then_any starved_loaded starved_loaded' rfl closed).2.1 1 r₃ _ ran₃ starving
  exact ⟨loaded, loaded', closed, ⟨r, ran, answer, counts⟩, depth, pending,
    ⟨r₂, ran₂, same.trans failed, taken⟩, starved_loaded, starved_loaded', r', ran', answer'⟩

end TapeMachine

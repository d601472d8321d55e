import TapeMachine.Proofs.StepBudget

/-! The same machine with more input behind what is unread. Only the `input` token that fails for want of
a character can tell the difference, so every run up to it is the same, under any limit. -/
namespace TapeMachine

open Machine

def Store.fed (s : Store) (more : List Char) : Store :=
  { s with input := s.input ++ more }

def Machine.fed (m : Machine) (more : List Char) : Machine :=
  { m with input := m.input ++ more }

theorem load_fed {settings : Settings} {program input : String} {m : Machine} (more : String)
    (loaded : load settings program input = .ok m) :
    load settings program (input ++ more) = .ok (m.fed more.toList) := by
  obtain ⟨valid, rfl⟩ := load_eq_ok_iff.1 loaded
  refine load_eq_ok_iff.2 ⟨valid, ?_⟩
  simp [fed, start]

/-- A token that does not fail for want of input acts alike, whatever stands behind the input. -/
theorem Store.perform_fed {s : Store} {token : Token} {result : Except Fault Store}
    (more : List Char) (performed : s.perform token = result) (read : result ≠ .error .emptyInput) :
    (s.fed more).perform token = result.map (·.fed more) := by
  subst performed
  cases token with
  | input =>
    cases unread : s.input with
    | nil => simp [Store.perform, unread] at read
    | cons char rest => simp [Store.perform, Store.fed, unread, Except.map]
  | _ => rfl

section Fed

variable {m m' final : Machine} {n : Nat} {answer : Except Failure String}

theorem Transition.fed {taken : Step} (transition : Transition m taken) (more : List Char)
    (read : taken.answer ≠ .error .emptyInput) :
    Transition (m.fed more) ⟨taken.answer, taken.next.fed more, taken.event⟩ := by
  cases transition with
  | idle ended => exact .idle ended
  | finish frames => exact .finish frames
  | exhausted busy limited spent => exact .exhausted busy limited spent
  | perform frames budget plain performed =>
    have performed' : (m.fed more).store.perform _ = _ := Store.perform_fed more performed (by simp)
    exact @Transition.perform (m.fed more) _ _ _ _ _ _ _ frames budget plain performed'
  | refuse frames budget plain refused =>
    have refused' : (m.fed more).store.perform _ = _ := Store.perform_fed more refused (by
      rintro ⟨⟩
      exact read rfl)
    exact @Transition.refuse (m.fed more) _ _ _ _ _ _ _ frames budget plain refused'
  | skip frames budget found zero => exact .skip frames budget found zero
  | enter frames budget found nonzero => exact .enter frames budget found nonzero
  | unclosed frames budget unclosed => exact .unclosed frames budget unclosed
  | stray frames budget => exact .stray frames budget
  | leave frames budget zero => exact .leave frames budget zero
  | again frames budget nonzero => exact .again frames budget nonzero

theorem step_fed (more : List Char) (read : m.step.answer ≠ .error .emptyInput) :
    (m.fed more).step = ⟨m.step.answer, m.step.next.fed more, m.step.event⟩ :=
  step_of_transition (m.transition.fed more read)

theorem fed_simulation (more : List Char) :
    Simulation (· = .error .emptyInput) fun m m' => m' = m.fed more where
  output := by
    rintro m _ rfl
    rfl
  step := by
    rintro m _ rfl read
    rw [step_fed more read]
    exact ⟨rfl, rfl⟩

theorem Proceeds.fed (proceeds : Proceeds n m m') (more : List Char) :
    Proceeds n (m.fed more) (m'.fed more) := by
  obtain ⟨followed, same⟩ := (fed_simulation more).proceeds (by simp) rfl proceeds
  rwa [same] at followed

theorem Halts.fed (halts : Halts n m answer final) (more : List Char)
    (read : ∀ output, answer ≠ .error ⟨.emptyInput, output⟩) :
    Halts n (m.fed more) answer (final.fed more) := by
  have kept : lastAnswer answer ≠ .error .emptyInput := by
    rintro starving
    cases answer with
    | ok output => simp [lastAnswer] at starving
    | error failure =>
      rw [lastAnswer, Except.error.injEq] at starving
      exact read failure.partialOutput (by rw [← starving])
  obtain ⟨_, _, rfl, ⟨rfl, halts'⟩ | ⟨rfl, halts'⟩⟩ :=
    (fed_simulation more).halts (by simp) rfl halts kept
  · exact halts'
  · exact halts'

/-- The step that fails for want of input is counted, and changes nothing that a run leaves behind. -/
theorem Reachable.starved {settings : Settings} {program input output : String}
    (reached : Reachable (Machine.start settings program input) m)
    (halts : Halts n m (.error ⟨.emptyInput, output⟩) final) :
    final.steps = m.steps + n + 1 ∧ final.tape = (m.after n).tape ∧ (m.after n).output = output := by
  obtain ⟨proceeds, failed, pending, rfl⟩ := halts.last_failed
  have steps := reached.steps_of_proceeds proceeds
  have kept := (m.after n).transition.store_of_fault failed
  have output_kept : (m.after n).step.next.output = (m.after n).output := congrArg Store.output kept
  refine ⟨?_, congrArg Store.tape kept, output_kept.symm.trans pending⟩
  rcases (reached.proceeds proceeds).ends_or_refused_or_counted with
    ⟨ended, -⟩ | ⟨_, -, refused⟩ | ⟨-, counted⟩
  · rw [failed] at ended
    cases ended
  · rw [failed] at refused
    cases refused
  · rw [← steps]
    exact counted

end Fed

/-- A run that does not fail for want of input is the same on longer input, of which it leaves as much
more. A run that does so fail has all its steps but the last on longer input too, and what it has written
by then comes first in whatever is handed over there. -/
theorem longer_input_extends {settings : Settings} {program input more : String} {m m' : Machine}
    (loaded : load settings program input = .ok m)
    (loaded' : load settings program (input ++ more) = .ok m') {fuel : Nat} {r : Run}
    (ended : m.run fuel = some r) :
    ((∀ output, r.answer ≠ .error ⟨.emptyInput, output⟩) →
      ∃ r', m'.run fuel = some r' ∧ r'.answer = r.answer ∧
        r'.machine.steps = r.machine.steps ∧ r'.machine.tape = r.machine.tape ∧
        r'.machine.input = r.machine.input ++ more.toList) ∧
    ∀ output, r.answer = .error ⟨.emptyInput, output⟩ →
      ∃ n, r.machine.steps = n + 1 ∧ Proceeds n m' (m'.after n) ∧ (m'.after n).steps = n ∧
        (m'.after n).tape = (m.after n).tape ∧ r.machine.tape = (m.after n).tape ∧
        (m'.after n).depth = (m.after n).depth ∧
        (m'.after n).output = output ∧ (m.after n).output = output ∧
        ∀ fuel' r', m'.run fuel' = some r' → ∃ rest, handedOver r'.answer = output ++ rest := by
  rw [load_fed more loaded, Except.ok.injEq] at loaded'
  obtain ⟨-, rfl⟩ := load_eq_ok_iff.1 loaded
  subst loaded'
  obtain ⟨n, short, halts⟩ := runAfter_iff_halts.1 ⟨r, ended, rfl, rfl⟩
  constructor
  · intro read
    obtain ⟨r', ended', answer, machine⟩ :=
      runAfter_iff_halts.2 ⟨n, short, halts.fed more.toList read⟩
    refine ⟨r', ended', answer, ?_⟩
    rw [machine]
    exact ⟨rfl, rfl, rfl⟩
  · intro output starving
    rw [starving] at halts
    have proceeds := halts.last_failed.1
    have steps := Reachable.start.steps_of_proceeds proceeds
    obtain ⟨counted, tape, pending⟩ := Reachable.start.starved halts
    have zero : (Machine.start settings program input).steps = 0 := rfl
    rw [zero, Nat.zero_add] at steps counted
    have followed := proceeds.fed more.toList
    have fed := followed.eq_after
    refine ⟨n, counted, ?_⟩
    rw [← fed]
    refine ⟨followed, steps, rfl, tape, rfl, pending, pending, ?_⟩
    intro fuel' r' ended'
    obtain ⟨k, halts'⟩ := halts_of_run ended'
    obtain ⟨left, -, rest⟩ := followed.rest_halts halts'
    obtain ⟨added, handed⟩ := rest.output_extends
    exact ⟨added, handed.trans (congrArg (· ++ added) pending)⟩

/-- One character is too little for a program that reads two, and enough for one that reads one. -/
theorem second_read_extends :
    let m := Machine.start {} ",.," "a"
    let m' := Machine.start {} ",.," ("a" ++ "b")
    let read := Machine.start {} ",." "a"
    let read' := Machine.start {} ",." ("a" ++ "b")
    load {} ",.," "a" = .ok m ∧ load {} ",.," ("a" ++ "b") = .ok m' ∧
      (∃ r, m.run 3 = some r ∧ r.answer = .error ⟨.emptyInput, "a"⟩ ∧ r.machine.steps = 3) ∧
      (m'.after 2).output = "a" ∧
      (∀ fuel r', m'.run fuel = some r' → ∃ rest, handedOver r'.answer = "a" ++ rest) ∧
      load {} ",." "a" = .ok read ∧ load {} ",." ("a" ++ "b") = .ok read' ∧
      ∃ r', read'.run 3 = some r' ∧ r'.answer = .ok "a" ∧ r'.machine.input = ['b'] := by
  intro m m' read read'
  have loaded : load {} ",.," "a" = .ok m := rfl
  have loaded' : load {} ",.," ("a" ++ "b") = .ok m' := rfl
  have starves : ((Machine.start {} ",.," "a").run 3).map (fun r => (r.answer, r.machine.steps)) =
      some (.error ⟨.emptyInput, "a"⟩, 3) := rfl
  obtain ⟨r, ran, shown⟩ := Option.map_eq_some_iff.1 starves
  obtain ⟨answer, counts⟩ := Prod.mk.inj shown
  obtain ⟨n, counted, -, steps, -, -, -, pending, -, continued⟩ :=
    (longer_input_extends loaded loaded' ran).2 _ answer
  have last : n = 2 := by omega
  subst last
  have read_loaded : load {} ",." "a" = .ok read := rfl
  have read_loaded' : load {} ",." ("a" ++ "b") = .ok read' := rfl
  have ends : ((Machine.start {} ",." "a").run 3).map (fun r => (r.answer, r.machine.input)) =
      some (.ok "a", []) := rfl
  obtain ⟨one, read_ran, shown⟩ := Option.map_eq_some_iff.1 ends
  obtain ⟨ok, consumed⟩ := Prod.mk.inj shown
  obtain ⟨r', ran', same, -, -, left⟩ :=
    (longer_input_extends read_loaded read_loaded' read_ran).1 (by simp [ok])
  rw [consumed] at left
  exact ⟨loaded, loaded', ⟨r, ran, answer, counts⟩, pending, continued, read_loaded, read_loaded',
    r', ran', same.trans ok, left⟩

end TapeMachine

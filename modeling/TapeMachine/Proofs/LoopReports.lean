import TapeMachine.Proofs.Ending

/-! What a machine reports of its loops. Read from the first report on, leaving a loop always closes the
loop that was entered last and not left, so the reports tell at any time which loops are running; and a
report is made exactly where a loop begins or is left, with its size and its depth. -/
namespace TapeMachine

open Machine

namespace Event

def isEntry : Event → Bool
  | enteredLoop .. => true
  | _ => false

def isExit : Event → Bool
  | leftLoop .. => true
  | _ => false

/-- The size and the depth of the loops open after the report, the one entered last first. A loop can be
left only if it is the last one, and for the depth it was entered from. -/
def track? : Event → List (Nat × Nat) → Option (List (Nat × Nat))
  | enteredLoop size depth, loops => some ((size, depth) :: loops)
  | leftLoop depth, (_, entered) :: loops => if entered = depth + 1 then some loops else none
  | leftLoop _, [] => none
  | _, loops => some loops

theorem count_track? {e : Event} {loops loops' : List (Nat × Nat)}
    (tracked : e.track? loops = some loops') :
    loops'.length + [e].countP isExit = loops.length + [e].countP isEntry := by
  cases e with
  | leftLoop depth =>
    cases loops with
    | nil => simp [track?] at tracked
    | cons last loops =>
      simp only [track?, Option.ite_none_right_eq_some, Option.some.injEq] at tracked
      obtain ⟨-, rfl⟩ := tracked
      rfl
  | _ =>
    cases tracked
    simp [isExit, isEntry]

end Event

/-- The loops entered and not left after the reports, if these were open before them; none at all if the
reports do not pair up. -/
def loopsAfter (loops : List (Nat × Nat)) (events : List Event) : Option (List (Nat × Nat)) :=
  events.foldlM (fun loops e => e.track? loops) loops

section LoopsAfter

variable {loops loops' : List (Nat × Nat)} {events more : List Event}

theorem loopsAfter_append :
    loopsAfter loops (events ++ more) = (loopsAfter loops events).bind (loopsAfter · more) :=
  List.foldlM_append

theorem count_loopsAfter (tracked : loopsAfter loops events = some loops') :
    loops'.length + events.countP Event.isExit = loops.length + events.countP Event.isEntry := by
  induction events generalizing loops with
  | nil =>
    cases tracked
    rfl
  | cons e events ih =>
    obtain ⟨next, first, rest⟩ := Option.bind_eq_some_iff.1 tracked
    have one := Event.count_track? first
    have others := ih rest
    rw [← List.singleton_append, List.countP_append, List.countP_append]
    omega

end LoopsAfter

/-- The reports are of loops only, they pair up, and so many loops are entered and not left. -/
structure WellNested (events : List Event) (depth : Nat) : Prop where
  level : ∀ e ∈ events, e.level = .trace
  tracked : ∃ loops, loopsAfter [] events = some loops ∧ loops.length = depth
  counted : events.countP Event.isEntry = events.countP Event.isExit + depth
  ordered : ∀ first, first <+: events → first.countP Event.isExit ≤ first.countP Event.isEntry

theorem wellNested_of_loopsAfter {events : List Event} {loops : List (Nat × Nat)}
    (level : ∀ e ∈ events, e.level = .trace) (tracked : loopsAfter [] events = some loops) :
    WellNested events loops.length := by
  refine ⟨level, ⟨loops, tracked, rfl⟩, ?_, ?_⟩
  · have counted := count_loopsAfter tracked
    rw [List.length_nil] at counted
    omega
  · rintro first ⟨rest, rfl⟩
    rw [loopsAfter_append, Option.bind_eq_some_iff] at tracked
    obtain ⟨before, tracked, -⟩ := tracked
    have counted := count_loopsAfter tracked
    rw [List.length_nil] at counted
    omega

/-- The size and the depth of the loops being run, the innermost first. -/
def runningLoops : List Frame → List (Nat × Nat)
  | body :: below :: outer => (body.tokens.length, outer.length + 1) :: runningLoops (below :: outer)
  | _ => []

theorem length_runningLoops (frames : List Frame) : (runningLoops frames).length = frames.length - 1 := by
  fun_induction runningLoops frames with
  | case1 body below outer ih => simp [ih]
  | case2 frames short =>
    cases frames with
    | nil => rfl
    | cons top outer =>
      cases outer with
      | nil => rfl
      | cons below outer => exact absurd rfl (short top below outer)

theorem runningLoops_congr {top top' : Frame} (outer : List Frame) (same : top.tokens = top'.tokens) :
    runningLoops (top :: outer) = runningLoops (top' :: outer) := by
  cases outer with
  | nil => rfl
  | cons below outer => rw [runningLoops, runningLoops, same]

/-- What a step reports is what it does to the loops being run. -/
theorem Transition.loopsAfter {program : List Token} {m : Machine} {taken : Step}
    (transition : Transition m taken)
    (placed : m.frames ≠ [] → ∃ index loops, Placed program m.frames index loops) :
    loopsAfter (runningLoops m.frames) taken.event.toList = some (runningLoops taken.next.frames) := by
  cases transition with
  | idle | exhausted => rfl
  | finish frames =>
    obtain ⟨_, _, placed⟩ := placed (by simp [frames])
    rw [frames] at placed
    obtain ⟨rfl, -⟩ := placed.program_end
    rw [frames]
    rfl
  | perform frames | refuse frames | skip frames | unclosed frames | stray frames | again frames =>
    rw [frames]
    exact congrArg some (runningLoops_congr _ rfl)
  | @enter tokens rest body after balance isLoop outer frames =>
    have below : runningLoops (⟨tokens, .loopStart :: rest, balance, isLoop⟩ :: outer) =
        runningLoops (⟨tokens, after, balance, isLoop⟩ :: outer) := runningLoops_congr _ rfl
    rw [frames, below]
    rfl
  | @leave tokens balance outer frames =>
    obtain ⟨_, _, placed⟩ := placed (by simp [frames])
    rw [frames] at placed ⊢
    obtain ⟨_, _, _, below, -⟩ := placed.loop_end
    cases outer with
    | nil => exact absurd rfl below.ne_nil
    | cons top outer => simp [TapeMachine.loopsAfter, runningLoops, Event.track?]

/-! ## Where reports are made -/

section Place

variable {m : Machine} {c : JumpMachine} {taken : Step} {size depth i j : Nat}

theorem Tracks.placed_of_inside (tracks : Tracks m c) (inside : c.pc < c.tokens.length) :
    ∃ loops, Placed c.tokens m.frames c.pc loops := by
  rcases tracks.place with placed | ⟨-, atEnd⟩
  · exact placed
  · omega

theorem Transition.level_of_event {e : Event} (transition : Transition m taken)
    (reported : taken.event = some e) : e.level = .trace := by
  cases transition with
  | enter | leave =>
    cases reported
    rfl
  | _ => simp at reported

/-- A loop is reported entered where its opening is met with room for a step and a cell that is not
zero. -/
theorem Tracks.entered_iff (tracks : Tracks m c) :
    m.step.event = some (.enteredLoop size depth) ↔
      m.HasBudget ∧ m.tape.current.value ≠ 0 ∧ depth = m.step.next.depth ∧
        ∃ j, Partner c.tokens c.pc j ∧ size = (slice c.tokens (c.pc + 1) j).length := by
  constructor
  · intro reported
    have transition := m.transition
    generalize m.step = taken at transition reported
    cases transition with
    | enter frames budget found nonzero =>
      obtain ⟨loops, placed⟩ := tracks.placed frames
      obtain ⟨partner, -⟩ := placed.loopStart found
      cases reported
      refine ⟨budget, nonzero, by simp [Machine.depth], _, partner, ?_⟩
      have inside := (List.getElem?_eq_some_iff.1 partner.closes).1
      rw [length_slice]
      omega
    | _ => simp at reported
  · rintro ⟨budget, nonzero, rfl, j, partner, rfl⟩
    have inside := (List.getElem?_eq_some_iff.1 partner.opens).1
    obtain ⟨loops, placed⟩ := tracks.placed_of_inside inside
    obtain ⟨_, _, _, _, _, _, frames, found⟩ := placed.at_opening partner
    rw [step_of_transition (.enter frames budget found nonzero)]
    simp [Machine.depth]

/-- A loop is reported left where its closing is met with room for a step and a cell that is zero. -/
theorem Tracks.left_iff (tracks : Tracks m c) :
    m.step.event = some (.leftLoop depth) ↔
      m.HasBudget ∧ m.tape.current.value = 0 ∧ depth = m.step.next.depth ∧
        ∃ i, Partner c.tokens i c.pc := by
  constructor
  · intro reported
    have transition := m.transition
    generalize m.step = taken at transition reported
    cases transition with
    | leave frames budget zero =>
      obtain ⟨loops, placed⟩ := tracks.placed frames
      obtain ⟨i, _, partner, -⟩ := placed.loop_end
      cases reported
      exact ⟨budget, zero, rfl, i, partner⟩
    | _ => simp at reported
  · rintro ⟨budget, zero, rfl, i, partner⟩
    have inside := (List.getElem?_eq_some_iff.1 partner.closes).1
    obtain ⟨loops, placed⟩ := tracks.placed_of_inside inside
    obtain ⟨_, _, frames⟩ := placed.at_closing partner
    rw [step_of_transition (.leave frames budget zero)]
    rfl

/-- A loop that is passed over and a body that begins again are not reported. -/
theorem Tracks.unreported (tracks : Tracks m c) (partner : Partner c.tokens i j)
    (inside : c.pc = i ∧ m.tape.current.value = 0 ∨ c.pc = j ∧ m.tape.current.value ≠ 0) :
    m.step.event = none := by
  refine Option.eq_none_iff_forall_ne_some.2 fun e reported => ?_
  have level := m.transition.level_of_event reported
  cases e with
  | enteredLoop size depth =>
    obtain ⟨-, nonzero, -, _, other, -⟩ := tracks.entered_iff.1 reported
    rcases inside with ⟨-, zero⟩ | ⟨rfl, -⟩
    · exact nonzero zero
    · exact other.start_ne_end partner rfl
  | leftLoop depth =>
    obtain ⟨-, zero, -, _, other⟩ := tracks.left_iff.1 reported
    rcases inside with ⟨rfl, -⟩ | ⟨-, nonzero⟩
    · exact partner.start_ne_end other rfl
    · exact nonzero zero
  | _ => simp [Event.level] at level

/-- The loop that is left is the one entered last, at the depth below which it is left. -/
theorem Tracks.runningLoops_left (tracks : Tracks m c)
    (left : m.step.event = some (.leftLoop depth)) :
    ∃ i, Partner c.tokens i c.pc ∧ runningLoops m.frames =
      ((slice c.tokens (i + 1) c.pc).length, depth + 1) :: runningLoops m.step.next.frames := by
  obtain ⟨budget, zero, rfl, i, partner⟩ := tracks.left_iff.1 left
  have inside := (List.getElem?_eq_some_iff.1 partner.closes).1
  obtain ⟨loops, placed⟩ := tracks.placed_of_inside inside
  obtain ⟨balance, outer, frames⟩ := placed.at_closing partner
  refine ⟨i, partner, ?_⟩
  rw [frames] at placed
  obtain ⟨_, _, _, below, -⟩ := placed.loop_end
  rw [step_of_transition (.leave frames budget zero), frames]
  cases outer with
  | nil => exact absurd rfl below.ne_nil
  | cons top outer => rfl

end Place

/-! ## Whole runs -/

namespace Machine

/-- What the first steps report, in order. -/
def reports (m : Machine) : (steps : Nat) → List Event
  | 0 => []
  | n + 1 => m.reports n ++ (m.after n).step.event.toList

theorem reports_add (m : Machine) (n k : Nat) :
    m.reports (n + k) = m.reports n ++ (m.after n).reports k := by
  induction k with
  | zero => exact (List.append_nil _).symm
  | succ k ih => rw [← Nat.add_assoc, reports, ih, reports, after_add, List.append_assoc]

theorem reports_succ (m : Machine) (n : Nat) :
    m.reports (n + 1) = m.step.event.toList ++ m.step.next.reports n := by
  rw [Nat.add_comm, reports_add]
  rfl

theorem level_of_mem_reports {m : Machine} {n : Nat} {e : Event} (listed : e ∈ m.reports n) :
    e.level = .trace := by
  induction n with
  | zero => simp [reports] at listed
  | succ n ih =>
    rw [reports, List.mem_append, Option.mem_toList] at listed
    rcases listed with before | last
    · exact ih before
    · exact (m.after n).transition.level_of_event last

/-- A run reports what its steps report, and then how it ended. -/
theorem events_of_runAfter {m : Machine} {earlier : List Event} {fuel : Nat} {r : Run}
    (ended : m.runAfter earlier fuel = some r) :
    ∃ n last, Halts n m r.answer r.machine ∧ last.level = .debug ∧
      r.events = earlier.reverse ++ m.reports (n + 1) ++ [last] := by
  induction fuel generalizing m earlier with
  | zero => simp [runAfter] at ended
  | succ fuel ih =>
    have once : m.step.event.toList.reverse = m.step.event.toList := by
      cases m.step.event <;> rfl
    rw [runAfter] at ended
    cases answered : m.step.answer with
    | error fault =>
      simp only [answered, Option.some.injEq] at ended
      subst ended
      refine ⟨0, .failed m.step.next.steps fault, .failed answered, rfl, ?_⟩
      simp [abandon, reports, after, once]
    | ok more =>
      cases more with
      | true =>
        simp only [answered] at ended
        obtain ⟨n, last, halts, level, events⟩ := ih ended
        refine ⟨n + 1, last, .step answered halts, level, ?_⟩
        rw [events, reports_succ m, List.reverse_append, once]
        simp
      | false =>
        simp only [answered, Option.some.injEq] at ended
        subst ended
        let last := Event.finished m.step.next.steps m.step.next.tape.size m.step.next.output.length
        refine ⟨0, last, .finished answered, rfl, ?_⟩
        simp [finish, reports, after, once, last]

theorem filter_events_of_run {m : Machine} {fuel : Nat} {r : Run} (ended : m.run fuel = some r) :
    ∃ n, Halts n m r.answer r.machine ∧
      r.events.filter (fun e => e.level = .trace) = m.reports (n + 1) := by
  obtain ⟨n, last, halts, level, events⟩ := events_of_runAfter ended
  have kept : (m.reports (n + 1)).filter (fun e => e.level = .trace) = m.reports (n + 1) :=
    List.filter_eq_self.2 fun e listed => by simp [level_of_mem_reports listed]
  refine ⟨n, halts, ?_⟩
  rw [events, List.filter_append, List.reverse_nil, List.nil_append, kept]
  simp [level]

end Machine

theorem tracks_after (settings : Settings) (program input : String) (n : Nat) :
    let c := (JumpMachine.start settings program input).after n
    c.tokens = tokenize program ∧ Tracks ((Machine.start settings program input).after n) c :=
  ⟨((JumpMachine.start settings program input).after_program n).1,
    (Tracks.start settings program input).after n⟩

theorem loopsAfter_reports (settings : Settings) (program input : String) (n : Nat) :
    let m := Machine.start settings program input
    loopsAfter [] (m.reports n) = some (runningLoops (m.after n).frames) := by
  intro m
  induction n with
  | zero => rfl
  | succ n ih =>
    obtain ⟨-, tracks⟩ := tracks_after settings program input n
    have placed : (m.after n).frames ≠ [] →
        ∃ index loops, Placed _ (m.after n).frames index loops := fun running =>
      tracks.place.elim (fun ⟨loops, placed⟩ => ⟨_, loops, placed⟩) fun ended =>
        absurd ended.1 running
    rw [reports, loopsAfter_append, ih]
    exact (m.after n).transition.loopsAfter placed

theorem wellNested_reports (settings : Settings) (program input : String) (n : Nat) :
    let m := Machine.start settings program input
    WellNested (m.reports n) (m.after n).depth := by
  have nested := wellNested_of_loopsAfter (fun _ => level_of_mem_reports)
    (loopsAfter_reports settings program input n)
  rwa [length_runningLoops] at nested

/-- The reports of entering and leaving loops pair up, whatever steps failed, and the loops entered and
not left are those being run; so are they when a run follows, be it one that fails. A loop is reported
entered exactly where it is, with its size and depth, and left exactly at its end on a cell that is zero;
what is left is the loop entered last. Loops that are skipped and bodies that begin again are not
reported. -/
theorem loop_reports_well_nested {settings : Settings} {program input : String} {m : Machine}
    (loaded : load settings program input = .ok m) :
    let tokens := tokenize program
    let index n := ((JumpMachine.start settings program input).after n).pc
    (∀ n, WellNested (m.reports n) (m.after n).depth) ∧
    (∀ n size depth, (m.after n).step.event = some (.enteredLoop size depth) ↔
      (m.after n).HasBudget ∧ (m.after n).tape.current.value ≠ 0 ∧ depth = (m.after (n + 1)).depth ∧
        ∃ j, Partner tokens (index n) j ∧ size = (slice tokens (index n + 1) j).length) ∧
    (∀ n depth, (m.after n).step.event = some (.leftLoop depth) ↔
      (m.after n).HasBudget ∧ (m.after n).tape.current.value = 0 ∧ depth = (m.after (n + 1)).depth ∧
        ∃ i, Partner tokens i (index n)) ∧
    (∀ n depth, (m.after n).step.event = some (.leftLoop depth) → ∃ i loops,
      Partner tokens i (index n) ∧ loopsAfter [] (m.reports (n + 1)) = some loops ∧
      loopsAfter [] (m.reports n) =
        some (((slice tokens (i + 1) (index n)).length, depth + 1) :: loops)) ∧
    (∀ n i j, Partner tokens i j →
      index n = i ∧ (m.after n).tape.current.value = 0 ∨
        index n = j ∧ (m.after n).tape.current.value ≠ 0 → (m.after n).step.event = none) ∧
    ∀ n fuel r, (m.after n).run fuel = some r → ∃ k,
      Halts k (m.after n) r.answer r.machine ∧
      m.reports n ++ r.events.filter (fun e => e.level = .trace) = m.reports (n + k + 1) ∧
      (∀ output, r.answer = .ok output → WellNested (m.reports (n + k + 1)) 0) ∧
      ∀ failure, r.answer = .error failure →
        WellNested (m.reports (n + k + 1)) (m.after (n + k)).depth := by
  obtain ⟨-, rfl⟩ := load_eq_ok_iff.1 loaded
  intro tokens index
  have placed n := tracks_after settings program input n
  have nested := wellNested_reports settings program input
  have loops := loopsAfter_reports settings program input
  refine ⟨nested, fun n size depth => ?_, fun n depth => ?_, fun n depth left => ?_,
    fun n i j partner inside => ?_, fun n fuel r ended => ?_⟩
  · obtain ⟨same, tracks⟩ := placed n
    rw [tracks.entered_iff, same]
    rfl
  · obtain ⟨same, tracks⟩ := placed n
    rw [tracks.left_iff, same]
    rfl
  · obtain ⟨same, tracks⟩ := placed n
    obtain ⟨i, partner, running⟩ := tracks.runningLoops_left left
    rw [same] at partner running
    exact ⟨i, _, partner, loops (n + 1), (loops n).trans (congrArg some running)⟩
  · obtain ⟨same, tracks⟩ := placed n
    exact tracks.unreported (same.symm ▸ partner) inside
  · obtain ⟨k, halts, traced⟩ := filter_events_of_run ended
    refine ⟨k, halts, ?_, fun output answer => ?_, fun failure answer => ?_⟩
    · rw [traced, Nat.add_assoc]
      exact (reports_add _ n (k + 1)).symm
    · rw [answer] at halts
      have nothing := halts.frames_eq_nil
      rw [halts.last_finished.2.2.2, after_add] at nothing
      have outside : ((Machine.start settings program input).after (n + k + 1)).depth = 0 :=
        congrArg (List.length · - 1) nothing
      exact outside ▸ nested (n + k + 1)
    · rw [answer] at halts
      have failed := halts.last_failed.2.1
      rw [after_add] at failed
      rw [← (Machine.transition _).depth_of_fault failed]
      exact nested (n + k + 1)

/-- Two loops entered with a skipped one between them, and a failure inside both. -/
theorem failure_in_two_loops_reported :
    let m := Machine.start {} "+[>[-]+[x]]" ""
    let tokens := tokenize "+[>[-]+[x]]"
    load {} "+[>[-]+[x]]" "" = .ok m ∧ m.reports 7 = [.enteredLoop 8 1, .enteredLoop 1 2] ∧
      WellNested (m.reports 7) 2 ∧ (m.after 3).step.event = none ∧
      (∃ j, Partner tokens 7 j ∧ 1 = (slice tokens 8 j).length) ∧
      ∃ r failure, m.run 7 = some r ∧ r.answer = .error failure ∧
        ∃ k, m.reports 0 ++ r.events.filter (fun e => e.level = .trace) = m.reports (0 + k + 1) ∧
          WellNested (m.reports (0 + k + 1)) (m.after (0 + k)).depth := by
  intro m tokens
  have loaded : load {} "+[>[-]+[x]]" "" = .ok m := rfl
  obtain ⟨nested, entered, -, -, silent, ran⟩ := loop_reports_well_nested loaded
  have inside : (m.after 7).depth = 2 := by decide
  have skipped : Partner tokens 3 5 := ⟨by decide, by decide, by decide, by decide⟩
  have quiet := silent 3 3 5 skipped (.inl ⟨by decide, by decide⟩)
  have second : (m.after 5).step.event = some (.enteredLoop 1 2) := by decide
  obtain ⟨-, -, -, around⟩ := (entered 5 1 2).1 second
  have failing : (m.run 7).map Run.answer = some (.error ⟨.undefinedToken 'x', ""⟩) := by decide
  obtain ⟨r, ended, answer⟩ := Option.map_eq_some_iff.1 failing
  obtain ⟨k, -, traced, -, deep⟩ := ran 0 7 r ended
  exact ⟨loaded, by decide, inside ▸ nested 7, quiet, around, r, _, ended, answer, k, traced,
    deep _ answer⟩

end TapeMachine

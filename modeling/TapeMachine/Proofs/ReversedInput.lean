import TapeMachine.Proofs.GuardedRun
import TapeMachine.Proofs.ReadingLoop
import TapeMachine.Proofs.TapeExtent

/-! A program that reads up to the first character that a cell keeps as zero, and writes backwards what it
has read. Each character is left in a cell of its own. The way back goes over the same cells and ends at
the one in front of them, which has never been written. -/
namespace TapeMachine

open Machine Store

/-- Going left from the distance, the cells hold these codes, and the next cell holds zero. -/
def Tape.Trails (t : Tape) (distance : Int) : List Nat → Prop
  | [] => (t.view distance).value.toNat = 0
  | code :: codes => (t.view distance).value.toNat = code ∧ t.Trails (distance - 1) codes

def Store.shifted (s : Store) : Store :=
  { s with tape := s.tape.moveRight }

theorem steady_right : Steady .right shifted :=
  ⟨rfl, fun _ => rfl, fun _ => rfl⟩

/-- What trails depends on the cells to the left alone. -/
theorem Tape.Trails.of_view {t t' : Tape} {distance distance' : Int} {codes : List Nat}
    (trails : t.Trails distance codes)
    (same : ∀ back : Nat, t'.view (distance' - back) = t.view (distance - back)) :
    t'.Trails distance' codes := by
  have here : t'.view distance' = t.view distance := by simpa using same 0
  induction codes generalizing distance distance' with
  | nil => exact (congrArg (fun c : Cell => c.value.toNat) here).trans trails
  | cons code codes ih =>
    refine ⟨(congrArg (fun c : Cell => c.value.toNat) here).trans trails.1, ?_⟩
    have further : ∀ back : Nat, t'.view (distance' - 1 - back) = t.view (distance - 1 - back) := by
      intro back
      have next := same (back + 1)
      rwa [Int.natCast_succ, Int.add_comm, ← Int.sub_sub, ← Int.sub_sub] at next
    exact ih trails.2 further (by simpa using further 0)

/-! ## On the way -/

section Way

variable {settings : Settings} {s : Store} {codes : List Nat}

theorem trails_received (fits : s.tape.Fits settings) (trails : s.tape.Trails (-1) codes) (c : Char) :
    (s.received c).tape.Trails (-1) codes := by
  apply trails.of_view
  intro back
  rw [received, Tape.view_modify fits.sound, if_neg (by omega)]

theorem trails_shifted (valid : settings.Valid) (fits : s.tape.Fits settings)
    (trails : s.tape.Trails (-1) codes) (c : Char) :
    (s.received c).shifted.tape.Trails (-1) (keptCode settings.cellBits c :: codes) := by
  constructor
  · have there : (-1 : Int) + 1 = 0 := rfl
    rw [shifted, Tape.view_moveRight, there, Tape.view_zero]
    exact received_current valid fits c
  · apply (trails_received fits trails c).of_view
    intro back
    have there : (-1 : Int) - 1 - back + 1 = -1 - back := by omega
    rw [shifted, Tape.view_moveRight, there]

/-- What was read last is nearest. -/
theorem trails_worksThrough (valid : settings.Valid) (fits : s.tape.Fits settings)
    (trails : s.tape.Trails (-1) codes) (chars : List Char) :
    (s.worksThrough shifted chars).tape.Trails (-1)
      ((chars.map (keptCode settings.cellBits)).reverse ++ codes) := by
  induction chars generalizing s codes with
  | nil => exact trails
  | cons c chars ih =>
    have next := ih (steady_right.fits valid (received_fits valid fits c))
      (trails_shifted valid fits trails c)
    rwa [List.map_cons, List.reverse_cons, List.append_assoc, List.singleton_append]

theorem output_worksThrough_shifted (s : Store) (chars : List Char) :
    (s.worksThrough shifted chars).output = s.output := by
  induction chars generalizing s with
  | nil => rfl
  | cons c chars ih => exact ih (s.received c).shifted

/-- Each character takes the pointer one place farther than it has been. -/
theorem spans_worksThrough {t : Tape} {place : Int} (grows : 0 < t.chunk)
    (spans : t.Spans 0 place place s.tape) (chars : List Char) :
    t.Spans 0 (place + chars.length) (place + chars.length) (s.worksThrough shifted chars).tape := by
  induction chars generalizing s place with
  | nil =>
    rw [List.length_nil, Int.natCast_zero, Int.add_zero]
    exact spans
  | cons c chars ih =>
    have moved : t.Spans _ _ _ (s.received c).shifted.tape := (spans.modify _).moveRight grows
    rw [max_eq_right (Int.le_add_one (Int.le_refl place))] at moved
    have rest := ih moved
    rwa [Int.add_assoc, Int.add_comm 1, ← Int.natCast_succ] at rest

end Way

/-! ## On the way back -/

/-- What stands behind the loop that reads. -/
def wayBack : List Token :=
  [.left, .loopStart, .output, .left, .loopEnd]

section Back

variable {settings : Settings} {s : Store} {codes : List Nat} {outer : List Frame} {steps : Nat}

theorem trails_moveLeft (fits : s.tape.Fits settings) (trails : s.tape.Trails (-1) codes) :
    s.tape.moveLeft.Trails 0 codes := by
  apply trails.of_view
  intro back
  have there : (0 : Int) - back - 1 = -1 - back := by omega
  rw [Tape.view_moveLeft fits.sound, there]

theorem proceeds_back {t : Tape} {right : Int} (grows : 0 < t.chunk) (fits : s.tape.Fits settings)
    (trails : s.tape.Trails 0 codes) (spans : t.Spans 0 right codes.length s.tape)
    (nonzero : 0 ∉ codes) (inside : outer ≠ []) :
    ∃ s' : Store, s'.input = s.input ∧ s'.output = s.output ++ .ofList (codes.map decoded) ∧
      t.Spans 0 right 0 s'.tape ∧
      Proceeds (3 * codes.length) (s.machine (s.loopFrames [.output, .left] outer) steps)
        (s'.machine outer (steps + 3 * codes.length)) := by
  induction codes generalizing s steps with
  | nil =>
    rw [Tape.Trails, Tape.view_zero] at trails
    rw [loopFrames, if_pos (UInt32.toNat_inj.1 trails)]
    exact ⟨s, rfl, String.append_empty.symm, spans, .refl _⟩
  | cons code codes ih =>
    obtain ⟨here, further⟩ := trails
    rw [Tape.view_zero] at here
    rw [List.mem_cons, not_or] at nonzero
    have full : s.tape.current.value ≠ 0 := by
      intro empty
      rw [empty] at here
      exact nonzero.1 here
    let s' : Store := { s with output := s.output.push s.tape.current.char, tape := s.tape.moveLeft }
    have round : Proceeds 3 (s.machine (.loop [.output, .left] :: outer) steps)
        (s'.machine (s'.loopFrames [.output, .left] outer) (steps + 3)) :=
      .of_step (step_perform rfl rfl)
        (.of_step (step_perform rfl rfl) (.of_step (step_loop_end inside) (.refl _)))
    have nearer : t.Spans 0 right codes.length s'.tape := by
      have moved := spans.moveLeft grows
      rwa [List.length_cons, Int.natCast_succ, Int.add_sub_cancel,
        min_eq_left (Int.natCast_nonneg _)] at moved
    obtain ⟨last, unread, copied, spanned, rounds⟩ :=
      @ih s' (steps + 3) fits.moveLeft (trails_moveLeft fits further) nearer nonzero.2
    have count : 3 * (code :: codes).length = 3 + 3 * codes.length := by
      rw [List.length_cons]
      omega
    have written : s'.output = s.output ++ String.singleton (decoded code) := by
      rw [String.append_singleton, ← here, ← Cell.char_eq_decoded]
    refine ⟨last, unread, ?_, spanned, ?_⟩
    · rw [copied, written, List.map_cons, String.ofList_cons, String.append_assoc]
    · rw [loopFrames, if_neg full, count, ← Nat.add_assoc]
      exact round.trans rounds

/-- Over what trails, back to the zero in front of it. -/
theorem halts_wayBack {t : Tape} (grows : 0 < t.chunk) (fits : s.tape.Fits settings)
    (trails : s.tape.Trails (-1) codes)
    (spans : t.Spans 0 (codes.length + 1) (codes.length + 1) s.tape) (nonzero : 0 ∉ codes)
    (whole : List Token) :
    ∃ final, Halts (2 + 3 * codes.length) (s.machine [⟨whole, wayBack, 0, false⟩] steps)
        (.ok (s.output ++ .ofList (codes.map decoded))) final ∧
      final.steps = steps + (2 + 3 * codes.length) ∧ final.input = s.input ∧
      t.Spans 0 (codes.length + 1) 0 final.tape := by
  let near : Store := { s with tape := s.tape.moveLeft }
  have body : Balanced [.output, .left] := (balanced_plain rfl).append (balanced_plain rfl)
  have entry : Proceeds 2 (s.machine [⟨whole, wayBack, 0, false⟩] steps)
      (near.machine (near.loopFrames [.output, .left] [⟨whole, [], 0, false⟩]) (steps + 2)) :=
    .of_step (step_perform rfl rfl) (.of_step (step_loopStart (loopBody_append body [])) (.refl _))
  have nearer : t.Spans 0 (codes.length + 1) codes.length near.tape := by
    have moved := spans.moveLeft grows
    rwa [Int.add_sub_cancel, min_eq_left (Int.natCast_nonneg _)] at moved
  obtain ⟨last, unread, copied, spanned, rounds⟩ := @proceeds_back settings near codes
    [⟨whole, [], 0, false⟩] (steps + 2) t (codes.length + 1) grows fits.moveLeft
    (trails_moveLeft fits trails) nearer nonzero (List.cons_ne_nil _ _)
  have halts := (entry.trans rounds).halts (halts_at_end last whole 0 _)
  rw [copied] at halts
  exact ⟨_, halts, Nat.add_assoc .., unread, spanned⟩

end Back

section Run

variable {indexBits : Nat} {settings : Settings} {input : String} {m : Machine}

theorem start_reverse (unlimited : settings.stepLimit = none) :
    Proceeds 1 (Machine.start settings ">,[>,]<[.<]" input)
      ((fresh settings input).shifted.machine
        [⟨.right :: readingLoop .right wayBack, readingLoop .right wayBack, 0, false⟩] 1) := by
  have tokens : tokenize ">,[>,]<[.<]" = .right :: readingLoop .right wayBack := by decide
  rw [start_eq_machine unlimited, tokens]
  exact .of_step (step_perform rfl rfl) (.refl _)

theorem trails_from_start (valid : settings.Valid) (chars : List Char) :
    ((fresh settings input).shifted.worksThrough shifted chars).tape.Trails (-1)
      (chars.map (keptCode settings.cellBits)).reverse := by
  have untouched : (fresh settings input).shifted.tape.Trails (-1) [] := by
    rw [Tape.Trails, shifted, Tape.view_moveRight, fresh, Tape.view_blank]
    rfl
  have trails := trails_worksThrough valid (steady_right.fits valid (.blank valid)) untouched chars
  rwa [List.append_nil] at trails

theorem spans_from_start (valid : settings.Valid) (chars : List Char) :
    (fresh settings input).tape.Spans 0 (chars.length + 1) (chars.length + 1)
      ((fresh settings input).shifted.worksThrough shifted chars).tape := by
  have first := (Tape.Spans.refl (Tape.Fits.blank valid).sound).moveRight valid.chunk_pos
  have whole := @spans_worksThrough (fresh settings input).shifted _ 1 valid.chunk_pos first chars
  rwa [Int.add_comm] at whole

theorem run_reverse_starved (valid : settings.Valid) (unlimited : settings.stepLimit = none)
    (nonzero : ∀ c ∈ input.toList, keptCode settings.cellBits c ≠ 0) :
    ∃ r, (Machine.start settings ">,[>,]<[.<]" input).run (3 * input.length + 2) = some r ∧
      r.answer = .error ⟨.emptyInput, ""⟩ ∧ r.machine.steps = 3 * input.length + 2 ∧
      r.machine.input = [] ∧
      (fresh settings input).tape.Spans 0 (input.length + 1) (input.length + 1) r.machine.tape := by
  obtain ⟨final, halts, steps, left, tape⟩ := @halts_starved settings .right shifted
    ⟨.right :: readingLoop .right wayBack, wayBack, 0, false⟩ [] _ (fresh settings input).shifted
    input.toList 1 valid steady_right .before (steady_right.fits valid (.blank valid)) rfl nonzero
  have spans := @spans_from_start settings input valid input.toList
  rw [output_worksThrough_shifted] at halts
  rw [← tape] at spans
  rw [String.length_toList] at halts steps spans
  have whole := (start_reverse unlimited).halts halts
  have short : 1 + 3 * input.length < 3 * input.length + 2 := by omega
  obtain ⟨r, ran, answer, rfl⟩ := runAfter_iff_halts.2 ⟨_, short, whole⟩
  exact ⟨r, ran, answer, by omega, left, spans⟩

theorem run_reverse_ended (valid : settings.Valid) (unlimited : settings.stepLimit = none)
    {before behind : List Char} {c : Char} (unread : input.toList = before ++ c :: behind)
    (nonzero : ∀ b ∈ before, keptCode settings.cellBits b ≠ 0)
    (zero : keptCode settings.cellBits c = 0) :
    ∃ r, (Machine.start settings ">,[>,]<[.<]" input).run (6 * before.length + 6) = some r ∧
      r.answer = .ok (.ofList ((before.map (keptCode settings.cellBits)).reverse.map decoded)) ∧
      r.machine.steps = 6 * before.length + 5 ∧ r.machine.input = behind ∧
      (fresh settings input).tape.Spans 0 (before.length + 1) 0 r.machine.tape := by
  have fits : (fresh settings input).shifted.tape.Fits settings :=
    steady_right.fits valid (.blank valid)
  obtain ⟨left, reading⟩ := @proceeds_to_zero settings .right shifted
    ⟨.right :: readingLoop .right wayBack, wayBack, 0, false⟩ [] _ (fresh settings input).shifted
    c before behind 1 valid steady_right .before fits unread nonzero zero
  have written : 0 ∉ (before.map (keptCode settings.cellBits)).reverse := by
    simpa using nonzero
  have kept := steady_right.worksThrough_fits valid fits before
  have trails := trails_received kept (trails_from_start valid before) c
  have length : ((before.map (keptCode settings.cellBits)).reverse).length = before.length := by
    rw [List.length_reverse, List.length_map]
  have spans := ((@spans_from_start settings input valid before).modify (·.receive c))
  rw [← length] at spans
  obtain ⟨final, back, steps, unread', spanned⟩ := @halts_wayBack settings _ _
    (1 + (3 * before.length + 2)) _ valid.chunk_pos (received_fits valid kept c) trails spans written
    (.right :: readingLoop .right wayBack)
  rw [length] at back steps spanned
  have whole := ((start_reverse unlimited).trans reading).halts back
  have short : 1 + (3 * before.length + 2) + (2 + 3 * before.length) < 6 * before.length + 6 := by omega
  obtain ⟨r, ran, answer, rfl⟩ := runAfter_iff_halts.2 ⟨_, short, whole⟩
  refine ⟨r, ran, ?_, by omega, unread'.trans left, spanned⟩
  rw [answer, received, output_worksThrough_shifted]
  exact congrArg Except.ok String.empty_append

/-- Each place of the tape takes eight steps at most, so they are counted in a word if there is memory. -/
theorem steps_lt_of_room (valid : settings.Valid) (words : indexBits ≤ 64) {last steps : Nat}
    (few : steps ≤ 8 * (last + 1)) (room : 8 * lengthTo settings last < 2 ^ (indexBits - 1)) :
    steps < 2 ^ 64 := by
  have reached := @lt_lengthTo settings last valid
  have signed : (2 : Int) ^ (indexBits - 1) ≤ 2 ^ 64 := pow_le_pow_right₀ (by decide) (by omega)
  omega

/-- What was read before the first zero is written from its end to its beginning, and the rest of the input
is left. If no cell comes to zero the input runs out before anything is written. In both cases the pointer
goes one place beyond what is kept, and the run is stopped if there is no memory for that and for no other
reason. -/
theorem reverses_until_zero (loaded : load? indexBits settings ">,[>,]<[.<]" input = some (.ok m))
    (held : ">,[>,]<[.<]".utf8ByteSize < 2 ^ (indexBits - 1)) (words : indexBits ≤ 64)
    (unlimited : settings.stepLimit = none) :
    let codes := input.toList.map (keptCode settings.cellBits)
    let bytes := fun last : Nat => 8 * lengthTo settings last
    (∀ i, FirstZero codes i →
      (bytes (i + 1) < 2 ^ (indexBits - 1) → ∃ r, m.run? indexBits (6 * i + 6) = some (some r) ∧
        r.answer = .ok (.ofList ((codes.take i).reverse.map decoded)) ∧
        r.machine.steps = 6 * i + 5 ∧ r.machine.input = input.toList.drop (i + 1) ∧
        r.machine.input.length + i + 1 = input.length) ∧
      (2 ^ (indexBits - 1) ≤ bytes (i + 1) → m.run? indexBits (6 * i + 6) = none)) ∧
    (0 ∉ codes →
      (bytes (input.length + 1) < 2 ^ (indexBits - 1) →
        ∃ r, m.run? indexBits (3 * input.length + 2) = some (some r) ∧
          r.answer = .error ⟨.emptyInput, ""⟩ ∧ r.machine.steps = 3 * input.length + 2 ∧
          r.machine.input = []) ∧
      (2 ^ (indexBits - 1) ≤ bytes (input.length + 1) →
        m.run? indexBits (3 * input.length + 2) = none)) := by
  intro codes bytes
  obtain ⟨valid, rfl⟩ := load_eq_ok_iff.1 (load?_eq_ok_iff.1 loaded).1
  constructor
  · intro i first
    obtain ⟨inside, nonzero, c, whole, zero⟩ := first.split
    obtain ⟨r, ran, answer, steps, left, spans⟩ :=
      run_reverse_ended valid unlimited whole nonzero zero
    have length : (input.toList.take i).length = i := by
      rw [List.length_take, Nat.min_eq_left (Nat.le_of_lt inside)]
    rw [length] at ran steps spans
    rw [List.map_take] at answer
    obtain ⟨ends, stops⟩ := (runsTo_of_load loaded held ran).decided spans.size_eq_lengthTo
      (steps_lt_of_room valid words (by omega))
    refine ⟨fun room => ⟨r, ends room, answer, steps, left, ?_⟩, stops⟩
    rw [left]
    exact first.length_behind
  · intro unclosed
    obtain ⟨r, ran, answer, steps, left, spans⟩ :=
      run_reverse_starved valid unlimited (keptCode_ne_zero unclosed)
    obtain ⟨ends, stops⟩ := (runsTo_of_load loaded held ran).decided spans.size_eq_lengthTo
      (steps_lt_of_room valid words (by omega))
    exact ⟨fun room => ⟨r, ends room, answer, steps, left⟩, stops⟩

/-- In cells of sixteen bits the second character is kept as a code that no character has, and the third as
zero. In cells of eight bits no character of the second input is kept as zero, and nothing is written. There
is memory for both. -/
theorem wrapped_characters_reversed :
    let settings : Settings := { cellBits := 16, initialCells := 1, growthChunk := 1 }
    let input := String.ofList ['a', .ofNat 0x1D800, .ofNat 0x10000, 'b']
    let m := Machine.start settings ">,[>,]<[.<]" input
    let m' := Machine.start {} ">,[>,]<[.<]" "ab"
    load? 64 settings ">,[>,]<[.<]" input = some (.ok m) ∧
      load? 64 {} ">,[>,]<[.<]" "ab" = some (.ok m') ∧
      FirstZero (input.toList.map (keptCode 16)) 2 ∧
      (∃ r, m.run? 64 18 = some (some r) ∧ r.answer = .ok "\uFFFDa" ∧ r.machine.steps = 17 ∧
        r.machine.input = ['b']) ∧
      0 ∉ "ab".toList.map (keptCode 8) ∧
      ∃ r, m'.run? 64 8 = some (some r) ∧ r.answer = .error ⟨.emptyInput, ""⟩ ∧
        r.machine.steps = 8 ∧ r.machine.input = [] := by
  intro settings input m m'
  have loaded : load? 64 settings ">,[>,]<[.<]" input = some (.ok m) := rfl
  have loaded' : load? 64 {} ">,[>,]<[.<]" "ab" = some (.ok m') := rfl
  have held : ">,[>,]<[.<]".utf8ByteSize < 2 ^ (64 - 1) := by decide
  have chars : input.toList = ['a', .ofNat 0x1D800, .ofNat 0x10000, 'b'] := String.toList_ofList
  have codes : input.toList.map (keptCode settings.cellBits) = [97, 0xD800, 0, 98] := by
    rw [chars]
    decide
  have first : FirstZero (input.toList.map (keptCode settings.cellBits)) 2 := by
    rw [codes]
    exact ⟨by decide, by decide⟩
  have unclosed : 0 ∉ "ab".toList.map (keptCode 8) := by decide
  have chunks : chunksFor 1 3 = 3 := (chunksFor_eq_iff (by decide)).2 (by decide)
  have room : 8 * lengthTo settings (2 + 1 : Nat) < 2 ^ (64 - 1) := by
    change 8 * ((1 : Int) + 1 * chunksFor 1 3) < _
    rw [chunks]
    decide
  have room' : 8 * lengthTo {} ("ab".length + 1 : Nat) < 2 ^ (64 - 1) := by
    change 8 * ((10 : Int) + 5 * chunksFor 5 0) < _
    rw [chunksFor_zero]
    decide
  obtain ⟨ends, -⟩ := (reverses_until_zero loaded held (by decide) rfl).1 2 first
  obtain ⟨starves, -⟩ := (reverses_until_zero loaded' held (by decide) rfl).2 unclosed
  obtain ⟨r, ran, answer, steps, left, -⟩ := ends room
  rw [codes] at answer
  rw [chars] at left
  exact ⟨loaded, loaded', first, ⟨r, ran, answer, steps, left⟩, unclosed, starves room'⟩

/-- The first step needs a chunk for which there is not enough memory. -/
theorem oversized_chunk_stops_reverse :
    let settings : Settings := { initialCells := 1, growthChunk := 2 ^ 60 }
    let m := Machine.start settings ">,[>,]<[.<]" ""
    load? 64 settings ">,[>,]<[.<]" "" = some (.ok m) ∧
      0 ∉ "".toList.map (keptCode settings.cellBits) ∧ m.run? 64 2 = none := by
  intro settings m
  exact ⟨rfl, by decide, by decide⟩

end Run

end TapeMachine

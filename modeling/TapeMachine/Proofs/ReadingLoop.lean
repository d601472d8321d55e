import TapeMachine.Proofs.Evaluation
import TapeMachine.Proofs.WordBounds

/-! Loops that read. A character is read into the current cell, and as long as that does not make the cell
zero, one token is performed and the next character is read. Every character costs three steps but the one
that ends the loop, which costs two. -/
namespace TapeMachine

open Machine Store

/-- What a cell of so many bits keeps of a character. -/
def keptCode (width : Nat) (c : Char) : Nat :=
  c.toNat % 2 ^ width

/-- The character with the code; a code that no character has shows as U+FFFD. -/
def decoded (code : Nat) : Char :=
  if code.isValidChar then .ofNat code else '\uFFFD'

/-- The first zero among the codes is at this place. -/
structure FirstZero (codes : List Nat) (place : Nat) : Prop where
  zero : codes[place]? = some 0
  first : ∀ i < place, codes[i]? ≠ some 0

/-- A loop that reads, with what stands behind it. -/
def readingLoop (token : Token) (after : List Token) : List Token :=
  .input :: .loopStart :: token :: .input :: .loopEnd :: after

/-- A token that always does its work, and reads nothing. -/
structure Steady (token : Token) (work : Store → Store) : Prop where
  plain : token.isBracket = false
  performs : ∀ s : Store, s.perform token = .ok (work s)
  unread : ∀ s : Store, (work s).input = s.input

namespace Store

def received (s : Store) (c : Char) : Store :=
  { s with input := s.input.tail, tape := s.tape.modify (·.receive c) }

/-- Each of the characters is received and worked on. -/
def worksThrough (work : Store → Store) (s : Store) (chars : List Char) : Store :=
  chars.foldl (fun s c => work (s.received c)) s

end Store

/-! ## Characters and their codes -/

section Codes

variable {width : Nat}

theorem Cell.char_eq_decoded (c : Cell) : c.char = decoded c.value.toNat := by
  by_cases valid : c.value.toNat.isValidChar
  · rw [char, dif_pos valid, decoded, if_pos valid, Char.ofNat, dif_pos valid]
    rfl
  · rw [char, dif_neg valid, decoded, if_neg valid]

theorem Cell.Fits.receive_toNat {c : Cell} (fits : c.Fits width) (narrow : width ≤ 32) (char : Char) :
    (c.receive char).value.toNat = keptCode width char := by
  have bound : char.toNat < 2 ^ 63 := Nat.lt_trans char.val.toNat_lt (by decide)
  have filled := c.fill_toNat (Int64.ofNat char.toNat) (fits.width_eq ▸ narrow)
  rw [Int64.toInt_ofNat_of_lt bound, fits.width_eq] at filled
  exact_mod_cast filled

/-- The characters in front of the first zero, and the one that is kept as zero. -/
theorem FirstZero.split {chars : List Char} {place : Nat}
    (first : FirstZero (chars.map (keptCode width)) place) :
    place < chars.length ∧ (∀ b ∈ chars.take place, keptCode width b ≠ 0) ∧
      ∃ c, chars = chars.take place ++ c :: chars.drop (place + 1) ∧ keptCode width c = 0 := by
  obtain ⟨zero, first⟩ := first
  rw [List.getElem?_map, Option.map_eq_some_iff] at zero
  obtain ⟨c, here, zero⟩ := zero
  obtain ⟨inside, rfl⟩ := List.getElem?_eq_some_iff.1 here
  refine ⟨inside, ?_, chars[place], ?_, zero⟩
  · intro b listed none
    obtain ⟨i, short, rfl⟩ := List.mem_take_iff_getElem.1 listed
    have before : i < place := Nat.lt_of_lt_of_le short (Nat.min_le_left ..)
    apply first i before
    rw [List.getElem?_map, List.getElem?_eq_getElem (Nat.lt_trans before inside), Option.map_some, none]
  · rw [List.getElem_cons_drop, List.take_append_drop]

/-- All the characters are in front of the first zero, are behind it or are it. -/
theorem FirstZero.length_behind {text : String} {place : Nat}
    (first : FirstZero (text.toList.map (keptCode width)) place) :
    (text.toList.drop (place + 1)).length + place + 1 = text.length := by
  have inside := first.split.1
  rw [List.length_drop, ← String.length_toList]
  omega

theorem keptCode_ne_zero {chars : List Char} (unclosed : 0 ∉ chars.map (keptCode width)) :
    ∀ c ∈ chars, keptCode width c ≠ 0 := by
  intro c listed zero
  exact unclosed (List.mem_map.2 ⟨c, listed, zero⟩)

end Codes

/-! ## What is in the store -/

section WorksThrough

variable {settings : Settings} {token : Token} {work : Store → Store} {s : Store} {c : Char}
  {chars rest : List Char}

theorem perform_input (unread : s.input = c :: rest) : s.perform .input = .ok (s.received c) := by
  simp only [Store.perform, received, unread, List.tail_cons]

theorem received_fits (valid : settings.Valid) (fits : s.tape.Fits settings) (c : Char) :
    (s.received c).tape.Fits settings :=
  fits.modify fun _ inside => inside.receive valid.width_le c

theorem received_current (valid : settings.Valid) (fits : s.tape.Fits settings) (c : Char) :
    (s.received c).tape.current.value.toNat = keptCode settings.cellBits c := by
  rw [received, ← Tape.view_zero, Tape.view_modify fits.sound, if_pos rfl]
  exact fits.current.receive_toNat valid.width_le c

theorem Steady.fits (steady : Steady token work) (valid : settings.Valid)
    (fits : s.tape.Fits settings) : (work s).tape.Fits settings :=
  (Store.perform_fits valid fits (steady.performs s)).1

theorem Steady.worksThrough_fits (steady : Steady token work) (valid : settings.Valid)
    (fits : s.tape.Fits settings) (chars : List Char) :
    (s.worksThrough work chars).tape.Fits settings := by
  induction chars generalizing s with
  | nil => exact fits
  | cons c chars ih => exact ih (steady.fits valid (received_fits valid fits c))

theorem Steady.input (steady : Steady token work) (s : Store) (chars : List Char) :
    (s.worksThrough work chars).input = s.input.drop chars.length := by
  induction chars generalizing s with
  | nil => rfl
  | cons c chars ih =>
    have next := ih (work (s.received c))
    rwa [steady.unread, received, List.drop_tail] at next

end WorksThrough

/-! ## What the machine does -/

/-- The machine is to read next: it stands before the loop, or at the end of its body. -/
inductive AwaitsInput (token : Token) (behind : Frame) (outer : List Frame) : List Frame → Prop
  | before : AwaitsInput token behind outer
      ({ behind with rest := readingLoop token behind.rest } :: outer)
  | within : AwaitsInput token behind outer
      (⟨[token, .input], [.input], 0, true⟩ :: behind :: outer)

section Reading

variable {settings : Settings} {token : Token} {work : Store → Store} {behind : Frame}
  {outer frames : List Frame} {s : Store} {c : Char} {chars rest : List Char} {steps : Nat}

/-- The character is read, and the loop looks at it. -/
theorem AwaitsInput.proceeds (awaits : AwaitsInput token behind outer frames)
    (plain : token.isBracket = false) (unread : s.input = c :: rest) :
    Proceeds 2 (s.machine frames steps)
      ((s.received c).machine ((s.received c).loopFrames [token, .input] (behind :: outer))
        (steps + 2)) := by
  have performed := perform_input unread
  cases awaits with
  | before =>
    have body : Balanced [token, .input] := (balanced_plain plain).append (balanced_plain rfl)
    exact .of_step (step_perform rfl performed)
      (.of_step (step_loopStart (loopBody_append body behind.rest)) (.refl _))
  | within =>
    exact .of_step (step_perform rfl performed)
      (.of_step (step_loop_end (List.cons_ne_nil behind outer)) (.refl _))

/-- The loop does not end at a character that leaves something in the cell. -/
theorem AwaitsInput.proceeds_round (awaits : AwaitsInput token behind outer frames)
    (steady : Steady token work) (unread : s.input = c :: rest)
    (nonzero : (s.received c).tape.current.value ≠ 0) :
    Proceeds 3 (s.machine frames steps)
      ((work (s.received c)).machine (⟨[token, .input], [.input], 0, true⟩ :: behind :: outer)
        (steps + 3)) := by
  have read := @AwaitsInput.proceeds token behind outer frames s c rest steps awaits steady.plain unread
  rw [loopFrames, if_neg nonzero] at read
  have performed := steady.performs (s.received c)
  exact read.trans (.of_step (step_perform steady.plain performed) (.refl _))

theorem proceeds_reading (valid : settings.Valid) (steady : Steady token work)
    (awaits : AwaitsInput token behind outer frames) (fits : s.tape.Fits settings)
    (unread : s.input = chars ++ rest) (nonzero : ∀ c ∈ chars, keptCode settings.cellBits c ≠ 0) :
    ∃ frames', AwaitsInput token behind outer frames' ∧
      Proceeds (3 * chars.length) (s.machine frames steps)
        ((s.worksThrough work chars).machine frames' (steps + 3 * chars.length)) := by
  induction chars generalizing s frames steps with
  | nil => exact ⟨frames, awaits, .refl _⟩
  | cons c chars ih =>
    obtain ⟨first, later⟩ := List.forall_mem_cons.1 nonzero
    have current := received_current valid fits c
    have full : (s.received c).tape.current.value ≠ 0 := by
      intro empty
      rw [empty] at current
      exact first current.symm
    have round := @AwaitsInput.proceeds_round token work behind outer frames s c (chars ++ rest) steps
      awaits steady unread full
    have left : (work (s.received c)).input = chars ++ rest := by
      rw [steady.unread, received, unread, List.cons_append, List.tail_cons]
    obtain ⟨frames', awaits', rounds⟩ :=
      @ih _ _ (steps + 3) .within (steady.fits valid (received_fits valid fits c)) left later
    have count : 3 * (c :: chars).length = 3 + 3 * chars.length := by
      rw [List.length_cons]
      omega
    refine ⟨frames', awaits', ?_⟩
    rw [count, ← Nat.add_assoc]
    exact round.trans rounds

/-- The character that is kept as zero ends the loop, before its first round or after its last one. -/
theorem proceeds_to_zero (valid : settings.Valid) (steady : Steady token work)
    (awaits : AwaitsInput token behind outer frames) (fits : s.tape.Fits settings)
    (unread : s.input = chars ++ c :: rest)
    (nonzero : ∀ c ∈ chars, keptCode settings.cellBits c ≠ 0)
    (zero : keptCode settings.cellBits c = 0) :
    let s' := (s.worksThrough work chars).received c
    s'.input = rest ∧
      Proceeds (3 * chars.length + 2) (s.machine frames steps)
        (s'.machine (behind :: outer) (steps + (3 * chars.length + 2))) := by
  intro s'
  obtain ⟨frames', awaits', rounds⟩ :=
    @proceeds_reading settings token work behind outer frames s chars (c :: rest) steps
      valid steady awaits fits unread nonzero
  have left : (s.worksThrough work chars).input = c :: rest := by
    rw [steady.input, unread, List.drop_left]
  have last := @AwaitsInput.proceeds token behind outer frames' _ c rest (steps + 3 * chars.length)
    awaits' steady.plain left
  have current := received_current valid (steady.worksThrough_fits valid fits chars) c
  rw [zero] at current
  rw [loopFrames, if_pos (UInt32.toNat_inj.1 current), Nat.add_assoc] at last
  exact ⟨congrArg List.tail left, rounds.trans last⟩

/-- Without such a character the input runs out, at one step more. -/
theorem halts_starved (valid : settings.Valid) (steady : Steady token work)
    (awaits : AwaitsInput token behind outer frames) (fits : s.tape.Fits settings)
    (unread : s.input = chars) (nonzero : ∀ c ∈ chars, keptCode settings.cellBits c ≠ 0) :
    ∃ final, Halts (3 * chars.length) (s.machine frames steps)
        (.error ⟨.emptyInput, (s.worksThrough work chars).output⟩) final ∧
      final.steps = steps + 3 * chars.length + 1 ∧ final.input = [] ∧
      final.tape = (s.worksThrough work chars).tape := by
  obtain ⟨frames', awaits', rounds⟩ :=
    @proceeds_reading settings token work behind outer frames s chars [] steps
      valid steady awaits fits (by rw [unread, List.append_nil]) nonzero
  have left : (s.worksThrough work chars).input = [] := by
    rw [steady.input, unread, List.drop_length]
  have refused : (s.worksThrough work chars).perform .input = .error .emptyInput := by
    simp only [Store.perform, left]
  have stuck : ∃ frames'', ((s.worksThrough work chars).machine frames' (steps + 3 * chars.length)).step =
      ⟨.error .emptyInput,
        (s.worksThrough work chars).machine frames'' (steps + 3 * chars.length + 1), none⟩ := by
    cases awaits' with
    | before => exact ⟨_, step_refuse rfl refused⟩
    | within => exact ⟨_, step_refuse rfl refused⟩
  obtain ⟨frames'', stuck⟩ := stuck
  have failed := Halts.failed (congrArg Step.answer stuck)
  rw [stuck] at failed
  exact ⟨_, rounds.halts failed, rfl, left, rfl⟩

end Reading

end TapeMachine

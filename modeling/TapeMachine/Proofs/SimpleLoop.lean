import TapeMachine.Proofs.DeadLoop
import TapeMachine.Proofs.StepBudget
import TapeMachine.Proofs.StraightLine

/-! Loops whose body only works on the tape and comes back to where it began. Every round adds the same to
each cell, so arithmetic modulo the number of values of a cell tells after how many rounds the loop is left,
what the tape holds then, and whether it is left at all. -/
namespace TapeMachine

open Machine

/-- The body so many times over. -/
def rounds (body : List Token) (count : Nat) : List Token :=
  (List.replicate count body).flatten

/-- The loop that the next step enters or skips has just been left after so many steps: they are the first
after which no more loops are being run than before. -/
structure Machine.LeavesAfter (m : Machine) (n : Nat) : Prop where
  entered : 0 < n
  inside : ∀ i, 0 < i → i < n → m.depth < (m.after i).depth
  left : (m.after n).depth = m.depth

/-- So many rounds of the loop, one at least, make its cell zero. -/
def Machine.ClosesAfter (settings : Settings) (body : List Token) (m : Machine) (count : Nat) : Prop :=
  0 < count ∧ ((m.tape.current.value.toNat : Int) + count * tally (actionsOf body) 0) %
    2 ^ settings.cellBits = 0

section Rounds

variable {body : List Token}

theorem rounds_succ (body : List Token) (count : Nat) :
    rounds body (count + 1) = rounds body count ++ body := by
  rw [rounds, List.replicate_succ', List.flatten_append]
  simp [rounds]

theorem displacement_rounds (level : displacement (actionsOf body) = 0) (count : Nat) :
    displacement (actionsOf (rounds body count)) = 0 := by
  induction count with
  | zero => rfl
  | succ count ih => rw [rounds_succ, actionsOf_append, displacement_append, ih, level, Int.add_zero]

theorem tally_rounds (level : displacement (actionsOf body) = 0) (count : Nat) (place : Int) :
    tally (actionsOf (rounds body count)) place = count * tally (actionsOf body) place := by
  induction count with
  | zero => simp [rounds, actionsOf, tally]
  | succ count ih =>
    rw [rounds_succ, actionsOf_append, tally_append, ih, displacement_rounds level, Int.sub_zero]
    push_cast
    rw [Int.add_mul, Int.one_mul]

theorem leftmost_rounds (level : displacement (actionsOf body) = 0) (count : Nat) :
    leftmost (actionsOf (rounds body (count + 1))) = leftmost (actionsOf body) := by
  induction count with
  | zero => simp [rounds]
  | succ count ih =>
    rw [rounds_succ, actionsOf_append, leftmost_append, ih, displacement_rounds level, Int.zero_add,
      min_self]

theorem rightmost_rounds (level : displacement (actionsOf body) = 0) (count : Nat) :
    rightmost (actionsOf (rounds body (count + 1))) = rightmost (actionsOf body) := by
  induction count with
  | zero => simp [rounds]
  | succ count ih =>
    rw [rounds_succ, actionsOf_append, rightmost_append, ih, displacement_rounds level, Int.zero_add,
      max_self]

/-- Only the first round makes the tape grow. -/
theorem size_rounds {s : Store} (sound : s.tape.Sound) (level : displacement (actionsOf body) = 0)
    (count : Nat) : (s.worked (rounds body (count + 1))).tape.size = (s.worked body).tape.size := by
  have once := (Tape.Spans.actions sound (actionsOf body)).size
  have often := (Tape.Spans.actions sound (actionsOf (rounds body (count + 1)))).size
  rw [leftmost_rounds level, rightmost_rounds level] at often
  exact Int.ofNat_inj.1 (often.trans once.symm)

/-- What the loop finds in its cell after so many rounds. -/
def Store.guard (s : Store) (body : List Token) (count : Nat) : UInt32 :=
  (s.worked (rounds body count)).tape.current.value

theorem guard_eq_zero_iff {settings : Settings} {s : Store} (valid : settings.Valid)
    (fits : s.tape.Fits settings) (level : displacement (actionsOf body) = 0) (count : Nat) :
    s.guard body count = 0 ↔
      (s.tape.current.value.toNat + count * tally (actionsOf body) 0) % 2 ^ settings.cellBits = 0 := by
  have view := fits.view_actions valid (counting_actionsOf (rounds body count)) 0
  rw [displacement_rounds level, tally_rounds level, Int.sub_zero, Tape.view_zero, Tape.view_zero] at view
  rw [← view, ← UInt32.toNat_inj]
  exact Int.ofNat_inj.symm

end Rounds

/-! ## Rounds of a loop done by the machine -/

section Loop

variable {body : List Token} {s : Store} {outer : List Frame} {steps count : Nat}

theorem proceeds_round (straight : Straight body) (inside : outer ≠ []) :
    Proceeds (body.length + 1) (s.machine (.loop body :: outer) steps)
      ((s.worked body).machine ((s.worked body).loopFrames body outer)
        (steps + (body.length + 1))) := by
  have work := @proceeds_straight body [] body 0 true outer s steps straight
  have test := @step_loop_end (s.worked body) body outer (steps + body.length) inside
  rw [List.append_nil] at work
  exact work.trans (.of_step test (.refl _))

/-- As long as the cell is not zero after a round, there is another. -/
theorem proceeds_rounds (straight : Straight body) (inside : outer ≠ [])
    (nonzero : ∀ i, 0 < i → i ≤ count → s.guard body i ≠ 0) :
    Proceeds (count * (body.length + 1)) (s.machine (.loop body :: outer) steps)
      ((s.worked (rounds body count)).machine (.loop body :: outer)
        (steps + count * (body.length + 1))) := by
  induction count with
  | zero =>
    rw [Nat.zero_mul]
    exact .refl _
  | succ count ih =>
    have before := ih fun i first last => nonzero i first (Nat.le_succ_of_le last)
    have round := @proceeds_round body (s.worked (rounds body count)) outer
      (steps + count * (body.length + 1)) straight inside
    have again := nonzero (count + 1) (Nat.succ_pos count) (Nat.le_refl _)
    rw [Store.guard, rounds_succ, worked_append] at again
    rw [Store.loopFrames, if_neg again, ← worked_append, ← rounds_succ, Nat.add_assoc,
      ← Nat.succ_mul] at round
    have whole := before.trans round
    rwa [← Nat.succ_mul] at whole

/-- In the middle of a round the frame of the loop is on top. -/
theorem proceeds_within (straight : Straight body) (inside : outer ≠ [])
    (nonzero : ∀ i, 0 < i → i ≤ count → s.guard body i ≠ 0) {part : Nat} (short : part ≤ body.length) :
    ∃ v, Proceeds (count * (body.length + 1) + part) (s.machine (.loop body :: outer) steps) v ∧
      v.depth = outer.length := by
  have before := @proceeds_rounds body s outer steps count straight inside nonzero
  have some : Straight (body.take part) := fun token listed => straight token (List.mem_of_mem_take listed)
  have work := @proceeds_straight (body.take part) (body.drop part) body 0 true outer
    (s.worked (rounds body count)) (steps + count * (body.length + 1)) some
  rw [List.take_append_drop, List.length_take, Nat.min_eq_left short] at work
  exact ⟨_, before.trans work, rfl⟩

/-- One round more, and whatever it has left in the cell tells how the loop goes on. -/
theorem proceeds_next_round (straight : Straight body) (inside : outer ≠ [])
    (nonzero : ∀ i, 0 < i → i ≤ count → s.guard body i ≠ 0) :
    Proceeds ((count + 1) * (body.length + 1)) (s.machine (.loop body :: outer) steps)
      ((s.worked (rounds body (count + 1))).machine
        ((s.worked (rounds body (count + 1))).loopFrames body outer)
        (steps + (count + 1) * (body.length + 1))) := by
  have before := @proceeds_rounds body s outer steps count straight inside nonzero
  have round := @proceeds_round body (s.worked (rounds body count)) outer
    (steps + count * (body.length + 1)) straight inside
  rw [← worked_append, ← rounds_succ, Nat.add_assoc, ← Nat.succ_mul] at round
  have whole := before.trans round
  rwa [← Nat.succ_mul] at whole

/-- The loop is left after the first round that leaves zero in its cell. -/
theorem proceeds_out (straight : Straight body) (inside : outer ≠ [])
    (nonzero : ∀ i, 0 < i → i ≤ count → s.guard body i ≠ 0) (zero : s.guard body (count + 1) = 0) :
    Proceeds ((count + 1) * (body.length + 1)) (s.machine (.loop body :: outer) steps)
      ((s.worked (rounds body (count + 1))).machine outer
        (steps + (count + 1) * (body.length + 1))) := by
  have next := @proceeds_next_round body s outer steps count straight inside nonzero
  rw [Store.guard] at zero
  rwa [Store.loopFrames, if_pos zero] at next

end Loop

/-! ## From the bracket that opens the loop -/

section Entry

variable {m : Machine} {body tokens after : List Token} {balance : Int} {isLoop : Bool}
  {outer : List Frame} {count : Nat}

theorem proceeds_in (unlimited : m.stepLimit = none) (balanced : Balanced body)
    (frames : m.frames = ⟨tokens, .loopStart :: (body ++ .loopEnd :: after), balance, isLoop⟩ :: outer)
    (nonzero : m.tape.current.value ≠ 0) :
    Proceeds 1 m (m.store.machine (.loop body :: ⟨tokens, after, balance, isLoop⟩ :: outer)
      (m.steps + 1)) := by
  have taken := step_of_transition (.enter frames (hasBudget_of_unlimited unlimited)
    (loopBody_append balanced after) nonzero)
  refine .step (congrArg Step.answer taken) ?_
  rw [taken, advance, unlimited]
  exact .refl _

/-- After any step that the rounds so far have not made the last one, the loop is being run. -/
theorem inside_loop (unlimited : m.stepLimit = none) (straight : Straight body)
    (frames : m.frames = ⟨tokens, .loopStart :: (body ++ .loopEnd :: after), balance, isLoop⟩ :: outer)
    (nonzero : ∀ i ≤ count, m.store.guard body i ≠ 0) {n : Nat}
    (short : n < (count + 1) * (body.length + 1)) :
    Proceeds (1 + n) m (m.after (1 + n)) ∧ m.depth < (m.after (1 + n)).depth := by
  have done : n / (body.length + 1) ≤ count :=
    Nat.le_of_lt_succ ((Nat.div_lt_iff_lt_mul (Nat.succ_pos _)).2 short)
  have part : n % (body.length + 1) ≤ body.length :=
    Nat.le_of_lt_succ (Nat.mod_lt n (Nat.succ_pos _))
  have entered := proceeds_in unlimited straight.balanced frames (nonzero 0 (Nat.zero_le _))
  obtain ⟨v, within, depth⟩ := @proceeds_within body m.store (⟨tokens, after, balance, isLoop⟩ :: outer)
    (m.steps + 1) (n / (body.length + 1)) straight (List.cons_ne_nil _ _)
    (fun i _ last => nonzero i (Nat.le_trans last done)) _ part
  rw [Nat.div_add_mod'] at within
  have whole := entered.trans within
  rw [← whole.eq_after]
  refine ⟨whole, ?_⟩
  rw [depth, Machine.depth, frames]
  exact Nat.lt_succ_self _

theorem out_of_loop (unlimited : m.stepLimit = none) (straight : Straight body)
    (frames : m.frames = ⟨tokens, .loopStart :: (body ++ .loopEnd :: after), balance, isLoop⟩ :: outer)
    (nonzero : ∀ i ≤ count, m.store.guard body i ≠ 0) (zero : m.store.guard body (count + 1) = 0) :
    let n := 1 + (count + 1) * (body.length + 1)
    m.LeavesAfter n ∧ Proceeds n m (m.after n) ∧
      m.after n = (m.store.worked (rounds body (count + 1))).machine
        (⟨tokens, after, balance, isLoop⟩ :: outer) (m.steps + n) := by
  intro n
  have entered := proceeds_in unlimited straight.balanced frames (nonzero 0 (Nat.zero_le _))
  have rest := @proceeds_out body m.store (⟨tokens, after, balance, isLoop⟩ :: outer)
    (m.steps + 1) count straight (List.cons_ne_nil _ _) (fun i _ last => nonzero i last) zero
  rw [Nat.add_assoc] at rest
  have whole := entered.trans rest
  have last := whole.eq_after
  refine ⟨⟨by omega, fun i first before => ?_, ?_⟩, last ▸ whole, last.symm⟩
  · obtain ⟨j, rfl⟩ : ∃ j, i = 1 + j := ⟨i - 1, by omega⟩
    exact (inside_loop unlimited straight frames nonzero (by omega)).2
  · rw [← last, Machine.depth, Machine.depth, frames]
    rfl

theorem size_in_loop (unlimited : m.stepLimit = none) (sound : m.tape.Sound)
    (straight : Straight body) (level : displacement (actionsOf body) = 0)
    (frames : m.frames = ⟨tokens, .loopStart :: (body ++ .loopEnd :: after), balance, isLoop⟩ :: outer)
    (nonzero : ∀ i ≤ count, m.store.guard body i ≠ 0) {n : Nat}
    (early : n ≤ 1 + (count + 1) * (body.length + 1)) :
    (m.after n).tape.size ≤ (m.store.worked body).tape.size := by
  have entered := proceeds_in unlimited straight.balanced frames (nonzero 0 (Nat.zero_le _))
  have rest := @proceeds_next_round body m.store (⟨tokens, after, balance, isLoop⟩ :: outer)
    (m.steps + 1) count straight (List.cons_ne_nil _ _) (fun i _ last => nonzero i last)
  have last := (entered.trans rest).eq_after
  have grown := (m.after n).size_le_after (1 + (count + 1) * (body.length + 1) - n)
  rw [after_add, Nat.add_sub_cancel' early, ← last] at grown
  exact Nat.le_trans grown (Nat.le_of_eq (size_rounds sound level count))

/-- If no round leaves zero in the cell, the loop is run for ever. -/
theorem never_out (unlimited : m.stepLimit = none) (straight : Straight body)
    (frames : m.frames = ⟨tokens, .loopStart :: (body ++ .loopEnd :: after), balance, isLoop⟩ :: outer)
    (nonzero : ∀ i, m.store.guard body i ≠ 0) (n : Nat) :
    Proceeds n m (m.after n) ∧ (0 < n → m.depth < (m.after n).depth) := by
  cases n with
  | zero => exact ⟨.refl m, fun first => absurd first (Nat.lt_irrefl 0)⟩
  | succ n =>
    have short : n < (n + 1) * (body.length + 1) := by
      rw [Nat.mul_succ]
      omega
    have within := inside_loop unlimited straight frames (fun i _ => nonzero i) short
    rw [Nat.add_comm 1 n] at within
    exact ⟨within.1, fun _ => within.2⟩

end Entry

theorem not_halts_of_proceeds {m : Machine} (endless : ∀ n, Proceeds n m (m.after n)) (k : Nat)
    (answer : Except Failure String) (final : Machine) : ¬Halts k m answer final := by
  intro halts
  obtain ⟨left, beyond, -⟩ := (endless (k + 1)).rest_halts halts
  omega

/-- What so many rounds of a loop have made of the machine that entered it: it has taken the steps of the
rounds and neither read nor written, its pointer is at the cell where it was, which the chunks added on the
left have renumbered, and every cell has risen by what a round adds there, as often as there were rounds. -/
structure Machine.Looped (settings : Settings) (body : List Token) (count : Nat) (m w : Machine) :
    Prop where
  proceeds : Proceeds (1 + count * (body.length + 1)) m w
  steps : w.steps = m.steps + (1 + count * (body.length + 1))
  input : w.input = m.input
  output : w.output = m.output
  pointer : (w.tape.pointer : Int) = m.tape.pointer + settings.growthChunk *
    chunksFor settings.growthChunk (max 0 (-(m.tape.pointer + leftmost (actionsOf body))))
  cells : ∀ distance, ((w.tape.view distance).value.toNat : Int) =
    ((m.tape.view distance).value.toNat + count * tally (actionsOf body) distance) %
      2 ^ settings.cellBits

section Law

variable {indexBits : Nat} {settings : Settings} {program input : String} {m₀ m : Machine}
  {tokens after : List Token} {balance : Int} {isLoop : Bool} {outer : List Frame}

theorem looped_of_worked {body : List Token} {count : Nat} {frames : List Frame}
    (valid : settings.Valid) (fits : m.tape.Fits settings)
    (level : displacement (actionsOf body) = 0) {w : Machine}
    (proceeds : Proceeds (1 + (count + 1) * (body.length + 1)) m w)
    (same : w = (m.store.worked (rounds body (count + 1))).machine frames
      (m.steps + (1 + (count + 1) * (body.length + 1)))) :
    m.Looped settings body (count + 1) w := by
  subst same
  refine ⟨proceeds, rfl, rfl, rfl, ?_, fun distance => ?_⟩
  · have pointer := (Tape.Spans.actions fits.sound (actionsOf (rounds body (count + 1)))).pointer
    rwa [displacement_rounds level, leftmost_rounds level, Int.add_zero, fits.chunk_eq] at pointer
  · have view := fits.view_actions valid (counting_actionsOf (rounds body (count + 1))) distance
    rwa [displacement_rounds level, tally_rounds level, Int.sub_zero] at view

/-- A run that comes to a machine that goes on for ever is cut off by every limit. Its tape is in memory, if
that machine's tape always is. -/
theorem cutOff_of_endless {n : Nat} (loaded : load? indexBits settings program input = some (.ok m₀))
    (held : program.utf8ByteSize < 2 ^ (indexBits - 1)) (unlimited : settings.stepLimit = none)
    (endless : ∀ k, Proceeds k m (m.after k) ∧ InMemory indexBits (m.after k).tape.size)
    (reaches : Proceeds n m₀ m) (limit : UInt64) :
    ∃ m' fuel r,
      load? indexBits { settings with stepLimit := some limit } program input = some (.ok m') ∧
        m'.run? indexBits fuel = some (some r) ∧ CutOff limit m₀ r := by
  obtain ⟨loaded, allocated⟩ := load?_eq_ok_iff.1 loaded
  have same : { settings with stepLimit := none } = settings := by rw [← unlimited]
  have free : load { settings with stepLimit := none } program input = .ok m₀ := by rw [same, loaded]
  have outlasts : ∀ k answer final, Halts k m₀ answer final → limit.toNat < final.steps := by
    intro k answer final halts
    obtain ⟨left, -, rest⟩ := reaches.rest_halts halts
    exact absurd rest (not_halts_of_proceeds (fun k => (endless k).1) left answer final)
  obtain ⟨fuel, r, ran, cut⟩ := exists_cutOff free outlasts
  have loaded' := load_withLimit limit free
  have beyond := (m₀.after limit.toNat).size_le_after n
  rw [after_add, Nat.add_comm, ← after_add, ← reaches.eq_after, ← cut.tape] at beyond
  have contained : r.machine.Contained indexBits :=
    ⟨(endless limit.toNat).2.mono beyond, cut.steps ▸ limit.toNat_lt⟩
  have guarded := load?_eq_ok_iff.2 ⟨loaded', allocated⟩
  exact ⟨_, fuel, r, guarded, (runsTo_of_load guarded held ran).not_stopped contained, cut⟩

section Rounds

variable {body : List Token} {count : Nat}

/-- Before the first round the cell is not zero, whatever the arithmetic says of no rounds. -/
theorem guard_ne_zero (valid : settings.Valid) (fits : m.tape.Fits settings)
    (level : displacement (actionsOf body) = 0) (nonzero : m.tape.current.value ≠ 0)
    (unclosed : ∀ i ≤ count, ¬m.ClosesAfter settings body i) :
    ∀ i ≤ count, m.store.guard body i ≠ 0 := by
  intro i below zero
  cases i with
  | zero => exact nonzero zero
  | succ i =>
    have closed := (@guard_eq_zero_iff body settings m.store valid fits level (i + 1)).1 zero
    exact unclosed (i + 1) below ⟨Nat.succ_pos i, closed⟩

theorem leavesAfter_of_closesAfter (valid : settings.Valid) (fits : m.tape.Fits settings)
    (unlimited : m.stepLimit = none) (straight : Straight body)
    (level : displacement (actionsOf body) = 0)
    (frames : m.frames = ⟨tokens, .loopStart :: (body ++ .loopEnd :: after), balance, isLoop⟩ :: outer)
    (nonzero : m.tape.current.value ≠ 0) (closed : m.ClosesAfter settings body count)
    (first : ∀ i < count, ¬m.ClosesAfter settings body i) :
    let n := 1 + count * (body.length + 1)
    m.LeavesAfter n ∧ (m.after n).frames = ⟨tokens, after, balance, isLoop⟩ :: outer ∧
      m.Looped settings body count (m.after n) := by
  cases count with
  | zero => exact absurd closed.1 (Nat.lt_irrefl 0)
  | succ count =>
    have before := guard_ne_zero valid fits level nonzero fun i below =>
      first i (Nat.lt_succ_of_le below)
    have zero := (@guard_eq_zero_iff body settings m.store valid fits level (count + 1)).2 closed.2
    obtain ⟨left, proceeds, same⟩ := out_of_loop unlimited straight frames before zero
    exact ⟨left, by rw [same]; rfl, looped_of_worked valid fits level proceeds same⟩

theorem inMemory_in_loop (valid : settings.Valid) (fits : m.tape.Fits settings)
    (unlimited : m.stepLimit = none) (straight : Straight body)
    (level : displacement (actionsOf body) = 0)
    (frames : m.frames = ⟨tokens, .loopStart :: (body ++ .loopEnd :: after), balance, isLoop⟩ :: outer)
    (nonzero : m.tape.current.value ≠ 0) (room : InMemory indexBits (m.store.worked body).tape.size)
    (unclosed : ∀ i ≤ count, ¬m.ClosesAfter settings body i) :
    ∀ n ≤ 1 + (count + 1) * (body.length + 1), InMemory indexBits (m.after n).tape.size := by
  intro n early
  refine room.mono (size_in_loop unlimited fits.sound straight level frames ?_ early)
  exact guard_ne_zero valid fits level nonzero unclosed

theorem proceeds_of_not_closesAfter (valid : settings.Valid) (fits : m.tape.Fits settings)
    (unlimited : m.stepLimit = none) (straight : Straight body)
    (level : displacement (actionsOf body) = 0)
    (frames : m.frames = ⟨tokens, .loopStart :: (body ++ .loopEnd :: after), balance, isLoop⟩ :: outer)
    (nonzero : m.tape.current.value ≠ 0) (unclosed : ∀ count, ¬m.ClosesAfter settings body count)
    (n : Nat) : Proceeds n m (m.after n) ∧ (0 < n → m.depth < (m.after n).depth) := by
  refine never_out unlimited straight frames (fun i => ?_) n
  exact guard_ne_zero valid fits level nonzero (fun j _ => unclosed j) i (Nat.le_refl i)

end Rounds

/-- A loop whose body works on the tape and comes back to where it began, entered from any machine that can
be reached. On a zero it is skipped in one step. Else, with memory for the tape of one round, it is left if
some number of rounds makes its cell zero modulo the number of values, after the least such number; and if
none does, it is never left, and the run that comes to it exceeds every limit. No guard stops a step of it
that can be counted. -/
theorem simple_loop_law (loaded : load? indexBits settings program input = some (.ok m₀))
    (held : program.utf8ByteSize < 2 ^ (indexBits - 1)) (unlimited : settings.stepLimit = none)
    (reached : Reachable? indexBits m₀ m) {body : String}
    (straight : StraightText body) (level : body.toList.count '>' = body.toList.count '<')
    (frames : m.frames = ⟨tokens, tokenize (loopText body) ++ after, balance, isLoop⟩ :: outer) :
    let behind : List Frame := ⟨tokens, after, balance, isLoop⟩ :: outer
    let closes := m.ClosesAfter settings (tokenize body)
    let unstopped := fun n => m.steps + n < 2 ^ 64 → m.after? indexBits n = some (m.after n)
    (m.tape.current.value = 0 → m.step.answer = .ok true ∧
      m.step.next = { m with frames := behind, steps := m.steps + 1 } ∧ unstopped 1) ∧
    (m.tape.current.value ≠ 0 →
      InMemory indexBits (m.store.worked (tokenize body)).tape.size →
      ((∃ n, m.LeavesAfter n) ↔ ∃ count, closes count) ∧
      (∀ count, closes count → (∀ i < count, ¬closes i) →
        let n := 1 + count * ((tokenize body).length + 1)
        m.LeavesAfter n ∧ (m.after n).frames = behind ∧
          m.Looped settings (tokenize body) count (m.after n) ∧ ∀ i ≤ n, unstopped i) ∧
      ((∀ count, ¬closes count) →
        (∀ n, Proceeds n m (m.after n) ∧ (0 < n → m.depth < (m.after n).depth) ∧ unstopped n) ∧
        ∀ n, Proceeds n m₀ m → ∀ limit, ∃ m' fuel r,
          load? indexBits { settings with stepLimit := some limit } program input = some (.ok m') ∧
            m'.run? indexBits fuel = some (some r) ∧ CutOff limit m₀ r)) := by
  intro behind closes unstopped
  have guarded := loaded
  obtain ⟨loaded, allocated⟩ := load?_eq_ok_iff.1 loaded
  obtain ⟨valid, rfl⟩ := load_eq_ok_iff.1 loaded
  obtain ⟨reached, contained⟩ := reached.reachable valid held allocated
  obtain ⟨fits, -, limit, -, -⟩ := reached.bounded valid
  rw [unlimited] at limit
  have works := straight_tokenize straight
  have still : displacement (actionsOf (tokenize body)) = 0 := by
    rw [displacement_of_text, level, Int.sub_self]
  rw [tokenize_loopText, List.append_assoc, List.singleton_append, List.cons_append] at frames
  constructor
  · intro zero
    have skipped := step_of_transition (.skip frames (hasBudget_of_unlimited limit)
      (loopBody_append works.balanced after) zero)
    have next : (m.after 1).tape = m.tape := congrArg (fun taken : Step => taken.next.tape) skipped
    refine ⟨congrArg Step.answer skipped, congrArg Step.next skipped, ?_⟩
    exact reached.after?_of_room valid held (next ▸ contained.tape)
  · intro nonzero room
    have leaves : ∀ count, closes count → (∀ i < count, ¬closes i) → _ := fun count =>
      leavesAfter_of_closesAfter valid fits limit works still frames nonzero
    have stays := proceeds_of_not_closesAfter valid fits limit works still frames nonzero
    have kept : ∀ count, (∀ i ≤ count, ¬closes i) → _ := fun count =>
      inMemory_in_loop valid fits limit works still frames nonzero room
    refine ⟨⟨?_, ?_⟩, ?_, fun unclosed => ?_⟩
    · rintro ⟨n, left⟩
      by_contra unclosed
      have inside := (stays (not_exists.1 unclosed) n).2 left.entered
      rw [left.left] at inside
      exact Nat.lt_irrefl _ inside
    · intro closed
      classical
      exact ⟨_, (leaves (Nat.find closed) (Nat.find_spec closed) fun i below =>
        Nat.find_min closed below).1⟩
    · intro count closed first n
      obtain ⟨left, frames', looped⟩ := leaves count closed first
      refine ⟨left, frames', looped, fun i early => ?_⟩
      cases count with
      | zero => exact absurd closed.1 (Nat.lt_irrefl 0)
      | succ count =>
        exact reached.after?_of_room valid held
          (kept count (fun j below => first j (Nat.lt_succ_of_le below)) i early)
    · have always : ∀ n, InMemory indexBits (m.after n).tape.size := by
        intro n
        refine kept n (fun i _ => unclosed i) n ?_
        rw [Nat.succ_mul, Nat.mul_succ]
        omega
      refine ⟨fun n => ⟨(stays unclosed n).1, (stays unclosed n).2, ?_⟩, ?_⟩
      · exact reached.after?_of_room valid held (always n)
      · intro n reaches
        exact cutOff_of_endless guarded held unlimited
          (fun k => ⟨(stays unclosed k).1, always k⟩) reaches

/-- A loop that goes off the left end of the tape and adds two there in each of its three rounds, and one
that takes two at a time from an odd number and so never comes to zero. There is memory for both. -/
theorem doubling_and_endless_loops :
    let m₀ := Machine.start {} "+++[<++>-]" ""
    let m := m₀.after 3
    let v₀ := Machine.start {} "+[>+<--]" ""
    let v := v₀.after 1
    load? 64 {} "+++[<++>-]" "" = some (.ok m₀) ∧ load? 64 {} "+[>+<--]" "" = some (.ok v₀) ∧
      Reachable? 64 m₀ m ∧ Reachable? 64 v₀ v ∧ StraightText "<++>-" ∧ StraightText ">+<--" ∧
      InMemory 64 (m.store.worked (tokenize "<++>-")).tape.size ∧
      InMemory 64 (v.store.worked (tokenize ">+<--")).tape.size ∧
      m.LeavesAfter 19 ∧ m.after? 64 19 = some (m.after 19) ∧
      ((m.after 19).tape.pointer : Int) = 0 + 5 * 1 ∧
      (((m.after 19).tape.view (-1)).value.toNat : Int) = 6 ∧
      (∀ n, 0 < n → v.depth < (v.after n).depth) ∧
      ∃ m' fuel r, load? 64 { stepLimit := some 100 } "+[>+<--]" "" = some (.ok m') ∧
        m'.run? 64 fuel = some (some r) ∧ CutOff 100 v₀ r := by
  intro m₀ m v₀ v
  have loaded : load? 64 {} "+++[<++>-]" "" = some (.ok m₀) := rfl
  have loaded' : load? 64 {} "+[>+<--]" "" = some (.ok v₀) := rfl
  have held : "+++[<++>-]".utf8ByteSize < 2 ^ (64 - 1) := by decide
  have held' : "+[>+<--]".utf8ByteSize < 2 ^ (64 - 1) := by decide
  have reached : Reachable? 64 m₀ m := .after loaded held (by decide)
  have reached' : Reachable? 64 v₀ v := .after loaded' held' (by decide)
  have straight : StraightText "<++>-" := by decide
  have straight' : StraightText ">+<--" := by decide
  have frames : m.frames = ⟨tokenize "+++[<++>-]", tokenize (loopText "<++>-") ++ [], 0, false⟩ :: [] := by
    decide
  have frames' : v.frames = ⟨tokenize "+[>+<--]", tokenize (loopText ">+<--") ++ [], 0, false⟩ :: [] := by
    decide
  have room : InMemory 64 (m.store.worked (tokenize "<++>-")).tape.size := by decide
  have room' : InMemory 64 (v.store.worked (tokenize ">+<--")).tape.size := by decide
  have three : (m.tape.current.value.toNat : Int) = 3 := by decide
  have one : (v.tape.current.value.toNat : Int) = 1 := by decide
  have falls : tally (actionsOf (tokenize "<++>-")) 0 = -1 := by decide
  have falls' : tally (actionsOf (tokenize ">+<--")) 0 = -2 := by decide
  have left : leftmost (actionsOf (tokenize "<++>-")) = -1 := by decide
  have chunks : chunksFor 5 1 = 1 := (chunksFor_eq_iff (by decide)).2 (by decide)
  have closed : m.ClosesAfter {} (tokenize "<++>-") 3 := by
    refine ⟨by decide, ?_⟩
    rw [three, falls]
    rfl
  have unclosed : ∀ count < 3, ¬m.ClosesAfter {} (tokenize "<++>-") count := by
    rintro count below ⟨first, closed⟩
    rw [three, falls] at closed
    change ((3 : Int) + count * (-1)) % 256 = 0 at closed
    omega
  have never : ∀ count, ¬v.ClosesAfter {} (tokenize ">+<--") count := by
    rintro count ⟨-, closed⟩
    rw [one, falls'] at closed
    change ((1 : Int) + count * (-2)) % 256 = 0 at closed
    omega
  obtain ⟨-, leaves, -⟩ :=
    (simple_loop_law loaded held rfl reached straight (by decide) frames).2 (by decide) room
  obtain ⟨-, -, stays⟩ :=
    (simple_loop_law loaded' held' rfl reached' straight' (by decide) frames').2 (by decide) room'
  obtain ⟨leaves, -, looped, unstopped⟩ := leaves 3 closed unclosed
  obtain ⟨endless, exceeds⟩ := stays never
  have taken : 1 + 3 * ((tokenize "<++>-").length + 1) = 19 := by decide
  rw [taken] at leaves looped unstopped
  have pointer := looped.pointer
  have cells := looped.cells (-1)
  rw [left] at pointer
  have before : v₀.step.answer = .ok true := by decide
  refine ⟨loaded, loaded', reached, reached', straight, straight', room, room', leaves,
    unstopped 19 (Nat.le_refl 19) (by decide), ?_, ?_, ?_, ?_⟩
  · rw [pointer]
    exact congrArg (fun added : Int => 0 + 5 * added) chunks
  · rw [cells]
    decide
  · exact fun n first => (endless n).2.1 first
  · exact exceeds 1 (.step before (.refl v)) 100

/-- The loop would be left after one round, for which there is not enough memory. -/
theorem oversized_chunk_stops_round :
    let settings : Settings := { initialCells := 1, growthChunk := 2 ^ 60 }
    let m₀ := Machine.start settings "+[-><]" ""
    let m := m₀.after 1
    load? 64 settings "+[-><]" "" = some (.ok m₀) ∧ Reachable? 64 m₀ m ∧ StraightText "-><" ∧
      m.frames = ⟨tokenize "+[-><]", tokenize (loopText "-><") ++ [], 0, false⟩ :: [] ∧
      m.tape.current.value ≠ 0 ∧ m.ClosesAfter settings (tokenize "-><") 1 ∧
      m.after? 64 (1 + 1 * ((tokenize "-><").length + 1)) = none := by
  intro settings m₀ m
  have one : (m.tape.current.value.toNat : Int) = 1 := by decide
  have falls : tally (actionsOf (tokenize "-><")) 0 = -1 := by decide
  have closed : m.ClosesAfter settings (tokenize "-><") 1 := by
    refine ⟨by decide, ?_⟩
    rw [one, falls]
    rfl
  have loaded : load? 64 settings "+[-><]" "" = some (.ok m₀) := rfl
  have reached : Reachable? 64 m₀ m := .after loaded (by decide) (by decide)
  exact ⟨loaded, reached, by decide, by decide, by decide, closed, by decide⟩

end Law

end TapeMachine

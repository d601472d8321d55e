import Mathlib.Data.Int.ModEq
import TapeMachine.Proofs.DeadLoop
import TapeMachine.Proofs.StepBudget
import TapeMachine.Proofs.Travel

/-! Loops in loops, and the products they make. What a body adds to the cells, while it counts its own cell
down, the loop adds as often as the cell said; so loops that stand in each other multiply, modulo the number
of values of a cell. The steps that this takes and the places that it comes to are told by the same recursion
over the text. -/
namespace TapeMachine

open Machine Store

def pluses (count : Nat) : String :=
  String.ofList (List.replicate count '+')

/-- Each number but the last one counts how often the product of the numbers behind it is added. -/
def productText (first : Nat) : List Nat → String
  | [] => pluses first
  | second :: behind => pluses first ++ loopText (">" ++ productText second behind ++ "<-")

/-- A count that wraps has fewer rounds. Each of them takes a move there and back, the decrement and the
repeated test besides the steps that its inner text takes. -/
def productSteps (width first : Nat) : List Nat → Nat
  | [] => first
  | second :: behind => first + 1 + first % 2 ^ width * (productSteps width second behind + 4)

/-- How far to the right the pointer goes: not farther than to the first count that wraps to zero. -/
def productReach (width first : Nat) : List Nat → Nat
  | [] => 0
  | second :: behind => if first % 2 ^ width = 0 then 0 else productReach width second behind + 1

/-- The pointer is where it was and nothing has been read or written, but each cell has risen by the amount
for its distance from the pointer. -/
structure Store.Raised (settings : Settings) (amount : Int → Int) (s s' : Store) : Prop where
  fits : s'.tape.Fits settings
  pointer : s'.tape.pointer = s.tape.pointer
  input : s'.input = s.input
  output : s'.output = s.output
  view : ∀ distance, ((s'.tape.view distance).value.toNat : Int) =
    ((s.tape.view distance).value.toNat + amount distance) % 2 ^ settings.cellBits

namespace Store.Raised

variable {settings : Settings} {amount amount' : Int → Int} {s s' s'' : Store}

theorem refl (fits : s.tape.Fits settings) : s.Raised settings (fun _ => 0) s := by
  refine ⟨fits, rfl, rfl, rfl, fun distance => ?_⟩
  have inside := (fits.view distance).value_lt
  rw [Int.add_zero, Int.emod_eq_of_lt (Int.natCast_nonneg _) (by exact_mod_cast inside)]

theorem trans (first : s.Raised settings amount s') (second : s'.Raised settings amount' s'') :
    s.Raised settings (fun distance => amount distance + amount' distance) s'' := by
  refine ⟨second.fits, second.pointer.trans first.pointer, second.input.trans first.input,
    second.output.trans first.output, fun distance => ?_⟩
  rw [second.view, first.view, Int.emod_add_emod, Int.add_assoc]

theorem congr (raised : s.Raised settings amount s')
    (same : ∀ distance, amount distance ≡ amount' distance [ZMOD 2 ^ settings.cellBits]) :
    s.Raised settings amount' s' := by
  refine ⟨raised.fits, raised.pointer, raised.input, raised.output, fun distance => ?_⟩
  rw [raised.view]
  exact (same distance).add_left _

theorem stays_zero (raised : s.Raised settings amount s') {distance : Int}
    (zero : (s.tape.view distance).value = 0) (still : amount distance = 0) :
    (s'.tape.view distance).value = 0 := by
  have view := raised.view distance
  rw [zero, still] at view
  exact UInt32.toNat_inj.1 (Int.ofNat_inj.1 view)

/-- What is done at the next cell to the right. -/
theorem beside (raised : Raised settings amount { s with tape := s.tape.moveRight } s') :
    s.Raised settings (fun distance => amount (distance - 1))
      { s' with tape := s'.tape.moveLeft } := by
  refine ⟨raised.fits.moveLeft, ?_, raised.input, raised.output, fun distance => ?_⟩
  · have pointer := raised.pointer
    rw [Tape.moveRight_pointer] at pointer
    rw [Tape.moveLeft_pointer, pointer, if_neg (Nat.succ_ne_zero _), Nat.add_sub_cancel]
  · rw [Tape.view_moveLeft raised.fits.sound, raised.view, Tape.view_moveRight, Int.sub_add_cancel]

theorem count {action : TapeAction} (valid : settings.Valid) (fits : s.tape.Fits settings)
    (counts : action = .increment ∨ action = .decrement) :
    s.Raised settings (fun distance => if distance = 0 then action.gain else 0)
      { s with tape := s.tape.act action } := by
  have still : displacement [action] = 0 := by rcases counts with rfl | rfl <;> rfl
  have counting : Counting [action] := by
    intro action' listed value filled
    rw [List.mem_singleton.1 listed] at filled
    rcases counts with rfl | rfl <;> cases filled
  refine ⟨Tape.act_fits valid fits action, ?_, rfl, rfl, fun distance => ?_⟩
  · rcases counts with rfl | rfl <;> rfl
  · have view := fits.view_actions valid counting distance
    rw [still, Int.sub_zero, tally, tally, Int.add_zero] at view
    exact view

end Store.Raised

/-- From every store in which the cells at some distances are zero, the tokens lead on to what stands behind
them, wherever they stand, in so many steps. They raise the cells by the amount and bring the pointer back,
which has been so far to the right on the way and never to the left. -/
structure Adds (settings : Settings) (zero : Int → Prop) (tokens : List Token) (cost reach : Nat)
    (amount : Int → Int) : Prop where
  balanced : Balanced tokens
  raises : ∀ s : Store, s.tape.Fits settings →
    (∀ distance, zero distance → (s.tape.view distance).value = 0) →
    ∀ whole rest balance isLoop outer steps, ∃ s', s.Raised settings amount s' ∧
      Travels 0 reach 0 (s.machine (⟨whole, tokens ++ rest, balance, isLoop⟩ :: outer) steps)
        (s'.machine (⟨whole, rest, balance, isLoop⟩ :: outer) (steps + cost))

namespace Adds

variable {settings : Settings} {zero zero' : Int → Prop} {amount amount' : Int → Int}
  {tokens xs ys : List Token} {cost reach cost' reach' : Nat}

theorem congr (adds : Adds settings zero tokens cost reach amount)
    (same : ∀ distance, amount distance ≡ amount' distance [ZMOD 2 ^ settings.cellBits]) :
    Adds settings zero tokens cost reach amount' := by
  refine ⟨adds.balanced, fun s fits zeros whole rest balance isLoop outer steps => ?_⟩
  obtain ⟨s', raised, travels⟩ := adds.raises s fits zeros whole rest balance isLoop outer steps
  exact ⟨s', raised.congr same, travels⟩

theorem of_more (adds : Adds settings zero tokens cost reach amount)
    (more : ∀ distance, zero distance → zero' distance) :
    Adds settings zero' tokens cost reach amount :=
  ⟨adds.balanced, fun s fits zeros => adds.raises s fits fun distance asked =>
    zeros distance (more distance asked)⟩

theorem append (first : Adds settings zero xs cost reach amount)
    (second : Adds settings zero' ys cost' reach' amount')
    (keeps : ∀ distance, zero' distance → zero distance ∧ amount distance = 0) :
    Adds settings zero (xs ++ ys) (cost + cost') (max reach reach')
      fun distance => amount distance + amount' distance := by
  refine ⟨first.balanced.append second.balanced,
    fun s fits zeros whole rest balance isLoop outer steps => ?_⟩
  obtain ⟨s', raised, travels⟩ :=
    first.raises s fits zeros whole (ys ++ rest) balance isLoop outer steps
  have zeros' : ∀ distance, zero' distance → (s'.tape.view distance).value = 0 :=
    fun distance asked => raised.stays_zero (zeros distance (keeps distance asked).1)
      (keeps distance asked).2
  obtain ⟨s'', raised', travels'⟩ :=
    second.raises s' raised.fits zeros' whole rest balance isLoop outer (steps + cost)
  refine ⟨s'', raised.trans raised', ?_⟩
  rw [List.append_assoc, ← Nat.add_assoc, Nat.cast_max]
  exact travels.trans_home travels'

theorem single {token : Token} {action : TapeAction} (valid : settings.Valid)
    (works : token.action? = some action) (counts : action = .increment ∨ action = .decrement) :
    Adds settings (fun _ => False) [token] 1 0
      fun distance => if distance = 0 then action.gain else 0 := by
  refine ⟨balanced_plain (isBracket_of_action works),
    fun s fits _ whole rest balance isLoop outer steps => ⟨_, .count valid fits counts, ?_⟩⟩
  have still : action.shift = 0 := by rcases counts with rfl | rfl <;> rfl
  have travels := @travels_token s whole rest token action balance isLoop outer steps works
  rwa [still] at travels

theorem pluses (valid : settings.Valid) (count : Nat) :
    Adds settings (fun _ => False) (List.replicate count .increment) count 0
      fun distance => if distance = 0 then count else 0 := by
  induction count with
  | zero =>
    refine ⟨rfl, fun s fits _ whole rest balance isLoop outer steps => ⟨s, ?_, .refl _⟩⟩
    simpa using Raised.refl fits
  | succ count ih =>
    have one := @single settings .increment .increment valid rfl (.inl rfl)
    have more := ih.append one fun _ => False.elim
    rw [List.replicate_succ']
    refine more.congr fun distance => ?_
    by_cases here : distance = 0
    · simp [here, TapeAction.gain]
    · simp [here]

/-- At the next cell to the right. -/
theorem beside (adds : Adds settings zero tokens cost reach amount) :
    Adds settings (fun distance => zero (distance - 1)) (.right :: tokens ++ [.left]) (cost + 2)
      (reach + 1) fun distance => amount (distance - 1) := by
  have first : Balanced [.right] := rfl
  have last : Balanced [.left] := rfl
  refine ⟨(first.append adds.balanced).append last,
    fun s fits zeros whole rest balance isLoop outer steps => ?_⟩
  have zeros' : ∀ distance, zero distance → (s.tape.moveRight.view distance).value = 0 := by
    intro distance asked
    rw [Tape.view_moveRight]
    apply zeros
    rwa [Int.add_sub_cancel]
  obtain ⟨s', raised, travels⟩ := adds.raises { s with tape := s.tape.moveRight } fits.moveRight
    zeros' whole (.left :: rest) balance isLoop outer (steps + 1)
  refine ⟨_, raised.beside, ?_⟩
  have there : Token.right.action? = some .right := rfl
  have back : Token.left.action? = some .left := rfl
  have moves := ((travels_token there).trans travels).trans (travels_token back)
  have farthest : max (max (max 0 1) (1 + (reach : Int))) (1 + 0 + max 0 (-1)) = (reach + 1 : Nat) := by omega
  have counted : steps + 1 + cost + 1 = steps + (cost + 2) := by omega
  rw [List.append_assoc, ← counted, ← farthest]
  exact moves

/-- A body that takes one from its own cell is done as often as the cell says. -/
theorem loop (body : Adds settings zero tokens cost reach amount) (down : amount 0 = -1)
    (keeps : ∀ distance, zero distance → amount distance = 0) {outer : List Frame} (inside : outer ≠ [])
    {s : Store} {steps count : Nat} (fits : s.tape.Fits settings)
    (counter : s.tape.current.value.toNat = count)
    (zeros : ∀ distance, zero distance → (s.tape.view distance).value = 0) :
    ∃ s', s.Raised settings (fun distance => count * amount distance) s' ∧
      Travels 0 (if count = 0 then 0 else reach) 0 (s.machine (s.loopFrames tokens outer) steps)
        (s'.machine outer (steps + count * (cost + 1))) := by
  induction count generalizing s steps with
  | zero =>
    have empty : s.tape.current.value = 0 := UInt32.toNat_inj.1 counter
    rw [loopFrames, if_pos empty, Nat.zero_mul]
    refine ⟨s, ?_, .refl _⟩
    simpa using Raised.refl fits
  | succ count ih =>
    obtain ⟨s', raised, travels⟩ := body.raises s fits zeros tokens [] 0 true outer steps
    have below : count < 2 ^ settings.cellBits := by
      have bound := fits.current.value_lt
      omega
    have counter' : s'.tape.current.value.toNat = count := by
      have view := raised.view 0
      rw [Tape.view_zero, Tape.view_zero, counter, down, Int.natCast_succ, Int.add_neg_cancel_right,
        Int.emod_eq_of_lt (Int.natCast_nonneg _) (by exact_mod_cast below)] at view
      exact Int.ofNat_inj.1 view
    have zeros' : ∀ distance, zero distance → (s'.tape.view distance).value = 0 :=
      fun distance asked => raised.stays_zero (zeros distance asked) (keeps distance asked)
    obtain ⟨final, raised', rounds⟩ := @ih s' (steps + cost + 1) raised.fits counter' zeros'
    have full : s.tape.current.value ≠ 0 := by
      intro empty
      rw [empty] at counter
      exact absurd counter (Nat.zero_ne_add_one count)
    refine ⟨final, (raised.trans raised').congr fun distance => ?_, ?_⟩
    · rw [Int.natCast_succ, Int.add_mul, Int.one_mul, Int.add_comm]
    · rw [List.append_nil] at travels
      have whole := (travels.trans_home (travels_loop_end inside)).trans_home rounds
      have farthest : max (max (reach : Int) 0) (if count = 0 then 0 else reach) = reach := by
        split <;> omega
      rw [farthest] at whole
      rw [loopFrames, if_neg full, if_neg (Nat.succ_ne_zero count), Nat.succ_mul, Nat.add_comm (count * _),
        ← Nat.add_assoc]
      exact whole

/-- A loop behind so many increments, whose body takes one from the cell they have counted in. If the count
wraps, there are fewer rounds or none, but modulo the number of values they add the same. -/
theorem times (valid : settings.Valid) (body : Adds settings zero tokens cost reach amount)
    (down : amount 0 = -1) (keeps : ∀ distance, zero distance → amount distance = 0) (count : Nat) :
    let rounds := count % 2 ^ settings.cellBits
    Adds settings (fun distance => distance = 0 ∨ zero distance)
      (List.replicate count .increment ++ (.loopStart :: tokens ++ [.loopEnd]))
      (count + 1 + rounds * (cost + 1)) (if rounds = 0 then 0 else reach)
      fun distance => if distance = 0 then 0 else count * amount distance := by
  intro rounds
  have counting := pluses valid count
  refine ⟨counting.balanced.append (balanced_loop body.balanced),
    fun s fits zeros whole rest balance isLoop outer steps => ?_⟩
  obtain ⟨s', raised, travels⟩ := counting.raises s fits (fun _ => False.elim) whole
    (.loopStart :: tokens ++ .loopEnd :: rest) balance isLoop outer steps
  have counted : s'.tape.current.value.toNat = rounds := by
    have view := raised.view 0
    rw [zeros 0 (.inl rfl), Tape.view_zero, if_pos rfl, UInt32.toNat_zero, Int.natCast_zero,
      Int.zero_add] at view
    exact_mod_cast view
  have wrapped : (rounds : Int) ≡ count [ZMOD 2 ^ settings.cellBits] := by
    have same := Int.mod_modEq (count : Int) (2 ^ settings.cellBits)
    exact_mod_cast same
  have zeros' : ∀ distance, zero distance → (s'.tape.view distance).value = 0 := by
    intro distance asked
    refine raised.stays_zero (zeros distance (.inr asked)) (if_neg ?_)
    rintro rfl
    have still := keeps 0 asked
    rw [down] at still
    cases still
  obtain ⟨final, raised', around⟩ := @loop settings zero amount tokens cost reach body down keeps
    (⟨whole, rest, balance, isLoop⟩ :: outer) (List.cons_ne_nil _ _) s' (steps + count + 1) _ raised.fits
    counted zeros'
  refine ⟨final, (raised.trans raised').congr fun distance => ?_, ?_⟩
  · by_cases here : distance = 0
    · rw [if_pos here, if_pos here, here, down, Int.mul_neg_one, ← Int.sub_eq_add_neg]
      exact (wrapped.symm.sub_right _).trans (by rw [Int.sub_self])
    · rw [if_neg here, if_neg here, Int.zero_add]
      exact wrapped.mul_right _
  · have entered := travels.trans_home (travels_loopStart (loopBody_append body.balanced rest))
    have farthest : max (max ((0 : Nat) : Int) 0) (if rounds = 0 then 0 else reach) =
        ((if rounds = 0 then 0 else reach : Nat) : Int) := by
      split <;> omega
    rw [← farthest, List.append_assoc, List.append_assoc, ← Nat.add_assoc, ← Nat.add_assoc]
    exact entered.trans_home around

end Adds

section Product

variable {indexBits : Nat} {settings : Settings} {program input : String} {m : Machine}

theorem tokenize_pluses (count : Nat) : tokenize (pluses count) = List.replicate count .increment := by
  have visible : isBlank '+' = false := by decide
  simp [tokenize, pluses, visible, Token.ofChar]

theorem tokenize_productText (first second : Nat) (behind : List Nat) :
    tokenize (productText first (second :: behind)) = List.replicate first .increment ++
      (.loopStart :: (.right :: tokenize (productText second behind) ++ [.left] ++ [.decrement]) ++
        [.loopEnd]) := by
  have right : tokenize ">" = [.right] := rfl
  have back : tokenize "<-" = [.left, .decrement] := rfl
  rw [productText, tokenize_append, tokenize_pluses, tokenize_loopText, tokenize_append, tokenize_append,
    right, back]
  simp

/-- One round takes one from its own cell, and what is done beside that cell leaves it alone. -/
theorem adds_round {tokens : List Token} {cost reach count product : Nat} (valid : settings.Valid)
    (inner : Adds settings (fun distance => 0 ≤ distance ∧ distance < count) tokens cost reach
      fun distance => if distance = count then product else 0) :
    Adds settings (fun distance => 1 ≤ distance ∧ distance < count + 1)
      (.right :: tokens ++ [.left] ++ [.decrement]) (cost + 3) (reach + 1)
      fun distance => if distance = 0 then -1 else if distance = count + 1 then product else 0 := by
  have minus := @Adds.single settings .decrement .decrement valid rfl (.inr rfl)
  have round := inner.beside.append minus fun _ => False.elim
  refine (round.of_more fun distance inside => by omega).congr fun distance => ?_
  have last : distance - 1 = count ↔ distance = count + 1 := by omega
  by_cases here : distance = 0
  · have within : ¬distance = count + 1 := by omega
    rw [if_pos here, if_pos here, if_neg (mt last.1 within), Int.zero_add]
    rfl
  · rw [if_neg here, if_neg here, Int.add_zero]
    simp only [last]
    rfl

theorem adds_product (valid : settings.Valid) (first : Nat) (behind : List Nat) :
    Adds settings (fun distance => 0 ≤ distance ∧ distance < behind.length)
      (tokenize (productText first behind)) (productSteps settings.cellBits first behind)
      (productReach settings.cellBits first behind)
      fun distance => if distance = behind.length then ((first :: behind).prod : Nat) else 0 := by
  induction behind generalizing first with
  | nil =>
    rw [productText, tokenize_pluses, List.prod_singleton]
    exact (Adds.pluses valid first).of_more fun _ => False.elim
  | cons second behind ih =>
    have whole := (adds_round valid (ih second)).times valid (if_pos rfl) ?_ first
    · rw [tokenize_productText]
      refine (whole.of_more fun distance inside => ?_).congr fun distance => ?_
      · rw [List.length_cons]
        omega
      · have split : (first :: second :: behind).prod = first * (second :: behind).prod := List.prod_cons
        rw [List.length_cons, split, Int.natCast_succ, Int.natCast_mul]
        by_cases here : distance = 0
        · rw [if_pos here, if_neg (by omega)]
        · rw [if_neg here, if_neg here, mul_ite, Int.mul_zero]
    · intro distance inside
      rw [if_neg (by omega), if_neg (by omega)]

/-- The whole text on a new tape, without guards. -/
theorem run_product (valid : settings.Valid) (unlimited : settings.stepLimit = none) (first : Nat)
    (behind : List Nat) :
    let m := Machine.start settings (productText first behind) input
    let steps := productSteps settings.cellBits first behind
    ∃ r, m.run (steps + 1) = some r ∧ r.answer = .ok "" ∧ r.machine.steps = steps ∧
      r.machine.input = input.toList ∧ r.machine.tape.pointer = 0 ∧
      displacement (m.actions steps) = 0 ∧ leftmost (m.actions steps) = 0 ∧
      m.tape.Spans 0 (productReach settings.cellBits first behind) 0 r.machine.tape ∧
      ∀ place, (r.machine.tape.view place).value.toNat =
        if place = behind.length then (first :: behind).prod % 2 ^ settings.cellBits else 0 := by
  intro m steps
  have new : (fresh settings input).tape.Fits settings := .blank valid
  have empty : ∀ place, ((fresh settings input).tape.view place).value = 0 :=
    fun place => congrArg Cell.value (Tape.view_blank ..)
  obtain ⟨s', raised, n, proceeds, low, high, level⟩ :=
    (adds_product valid first behind).raises (fresh settings input) new (fun place _ => empty place)
      (tokenize (productText first behind)) [] 0 false [] 0
  rw [List.append_nil, ← Frame.program, ← start_eq_machine unlimited] at proceeds low high level
  have counted : steps = n := Nat.add_left_cancel (Reachable.start.steps_of_proceeds proceeds)
  rw [← counted] at proceeds low high level
  have spans := Tape.Spans.actions new.sound (m.actions steps)
  rw [low, high, level] at spans
  have tape : s'.tape = (m.actions steps).foldl Tape.act m.tape := by
    rw [← after_tape]
    exact congrArg Machine.tape proceeds.eq_after
  obtain ⟨r, ran, answer, machine⟩ := runAfter_iff_halts.2 ⟨steps, Nat.lt_succ_self steps,
    proceeds.halts (halts_at_end s' (tokenize (productText first behind)) 0 _)⟩
  have last : r.machine.tape = s'.tape := congrArg Machine.tape machine
  refine ⟨r, ran, ?_, ?_, ?_, last ▸ raised.pointer, level, low, ?_, fun place => ?_⟩
  · rw [answer]
    exact congrArg Except.ok raised.output
  · rw [machine]
    exact Nat.zero_add steps
  · rw [machine]
    exact raised.input
  · rw [last, tape]
    exact spans
  · have view := raised.view place
    rw [empty, ← last] at view
    by_cases there : place = behind.length
    · rw [if_pos there] at view ⊢
      apply Int.ofNat_inj.1
      simpa using view
    · rw [if_neg there] at view ⊢
      exact Int.ofNat_inj.1 view

/-- On a new tape the loops multiply, however deep they stand in each other: the product is where the last
factor was counted, modulo the number of values of a cell, and all other places are zero. The pointer is back
at the first cell, and as it has never been further to the left, that is the cell where it began. The run is
stopped if there is no memory for the places that it comes to. -/
theorem nested_loops_multiply {first : Nat} {behind : List Nat}
    (loaded : load? indexBits settings (productText first behind) input = some (.ok m))
    (held : (productText first behind).utf8ByteSize < 2 ^ (indexBits - 1))
    (unlimited : settings.stepLimit = none) :
    let steps := productSteps settings.cellBits first behind
    let bytes := 8 * lengthTo settings (productReach settings.cellBits first behind)
    (bytes < 2 ^ (indexBits - 1) → steps < 2 ^ 64 →
      ∃ r, m.run? indexBits (steps + 1) = some (some r) ∧ r.answer = .ok "" ∧
        r.machine.steps = steps ∧ r.machine.input = input.toList ∧
        displacement (m.actions steps) = 0 ∧ leftmost (m.actions steps) = 0 ∧
        r.machine.tape.pointer = 0 ∧
        ∀ place, (r.machine.tape.view place).value.toNat =
          if place = behind.length then (first :: behind).prod % 2 ^ settings.cellBits else 0) ∧
    (2 ^ (indexBits - 1) ≤ bytes → m.run? indexBits (steps + 1) = none) := by
  intro steps bytes
  obtain ⟨valid, rfl⟩ := load_eq_ok_iff.1 (load?_eq_ok_iff.1 loaded).1
  obtain ⟨r, ran, answer, taken, unread, pointer, level, never, spans, cells⟩ :=
    @run_product settings input valid unlimited first behind
  have runs := runsTo_of_load loaded held ran
  have size := spans.size_eq_lengthTo
  refine ⟨fun room counted => ⟨r, ?_, answer, taken, unread, level, never, pointer, cells⟩, fun lacking => ?_⟩
  · exact (runs.decided size fun _ => taken ▸ counted).1 room
  · exact (runs.decided size fun room => absurd room (Int.not_lt.2 lacking)).2 lacking

/-- Cells of four bits on a tape of one cell, with memory enough. The product is eight more than the number of
values. -/
theorem twenty_four_in_four_bits :
    let settings : Settings := { cellBits := 4, initialCells := 1, growthChunk := 1 }
    let program := "++[>+++[>++++<-]<-]"
    let m := Machine.start settings program "x"
    productText 2 [3, 4] = program ∧ load? 64 settings program "x" = some (.ok m) ∧
      program.utf8ByteSize < 2 ^ (64 - 1) ∧
      ∃ r, m.run? 64 68 = some (some r) ∧ r.answer = .ok "" ∧ r.machine.steps = 67 ∧
        r.machine.input = ['x'] ∧ r.machine.tape.pointer = 0 ∧
        (r.machine.tape.view 2).value.toNat = 8 ∧ (r.machine.tape.view 1).value.toNat = 0 := by
  intro settings program m
  have written : productText 2 [3, 4] = program := by decide
  have loaded : load? 64 settings (productText 2 [3, 4]) "x" = some (.ok m) := by
    rw [written]
    rfl
  have held : (productText 2 [3, 4]).utf8ByteSize < 2 ^ (64 - 1) := by
    rw [written]
    decide
  have chunks : chunksFor 1 2 = 2 := (chunksFor_eq_iff (by decide)).2 (by decide)
  have room : 8 * lengthTo settings (productReach 4 2 [3, 4]) < 2 ^ (64 - 1) := by
    change 8 * ((1 : Int) + 1 * chunksFor 1 2) < _
    rw [chunks]
    decide
  obtain ⟨ends, -⟩ := nested_loops_multiply loaded held rfl
  obtain ⟨r, ran, answer, steps, unread, -, -, pointer, cells⟩ := ends room (by decide)
  refine ⟨written, written ▸ loaded, written ▸ held, r, ran, answer, steps, unread, pointer, ?_, ?_⟩
  · exact (cells 2).trans (by decide)
  · exact (cells 1).trans (by decide)

/-- One in one, with a chunk for which there is not enough memory. -/
theorem oversized_chunk_stops_product :
    let settings : Settings := { initialCells := 1, growthChunk := 2 ^ 60 }
    let m := Machine.start settings "+[>+<-]" ""
    productText 1 [1] = "+[>+<-]" ∧ load? 64 settings "+[>+<-]" "" = some (.ok m) ∧
      m.run? 64 8 = none := by
  intro settings m
  exact ⟨by decide, rfl, by decide⟩

end Product

end TapeMachine

import TapeMachine.Proofs.GuardedMachine

/-! The grammar of token sequences in which brackets match, and the scan for the end of a loop read against
it. From any index on, the scan finds the one nested sequence that stands there before a `loopEnd`. It
fails if there is none, and then no beginning of those tokens ends more loops than it starts. -/
namespace TapeMachine

open Machine

/-- Sequences made of tokens that are no brackets and of loops around such sequences. -/
inductive Nested : List Token → Prop where
  | nil : Nested []
  | plain {token : Token} {rest : List Token} :
      token.isBracket = false → Nested rest → Nested (token :: rest)
  | loop {body rest : List Token} :
      Nested body → Nested rest → Nested (.loopStart :: body ++ .loopEnd :: rest)

/-- Counting from left to right accepts what the grammar makes, and nothing else. -/
theorem nested_iff_balanced {tokens : List Token} : Nested tokens ↔ Balanced tokens := by
  constructor
  · intro nested
    induction nested with
    | nil => rfl
    | plain plain _ ih => exact (balanced_plain plain).append ih
    | loop _ _ inside behind =>
      have joined := (balanced_loop inside).append behind
      simpa using joined
  · intro balanced
    refine Balanced.induction .nil ?plain ?loop balanced
    case plain =>
      intro token rest plain ih
      exact .plain plain ih
    case loop =>
      intro body after _ inside behind
      exact .loop inside behind

instance (tokens : List Token) : Decidable (Nested tokens) :=
  decidable_of_iff (Balanced tokens) nested_iff_balanced.symm

/-! ## Numbers of brackets -/

section Count

variable {token : Token} {tokens : List Token} {opened left : Nat}

theorem Token.count_of_open? (counted : token.open? opened = some left) :
    left + [token].count .loopEnd = opened + [token].count .loopStart := by
  cases token with
  | loopEnd =>
    cases opened with
    | zero => simp [Token.open?] at counted
    | succ opened =>
      cases counted
      rfl
  | _ =>
    cases counted
    rfl

/-- The loops open at the end are those open before and those started, less those ended. -/
theorem count_of_openAfter (counted : openAfter opened tokens = some left) :
    left + tokens.count .loopEnd = opened + tokens.count .loopStart := by
  induction tokens generalizing opened with
  | nil =>
    cases counted
    rfl
  | cons token rest ih =>
    rw [openAfter, Option.bind_eq_some_iff] at counted
    obtain ⟨next, stepped, counted⟩ := counted
    have first := token.count_of_open? stepped
    have behind := ih counted
    rw [← List.singleton_append, List.count_append, List.count_append]
    omega

/-- While the count goes on, no more loops have been ended than were open or started. -/
theorem count_le_of_openAfter {before : List Token} (counted : openAfter opened tokens = some left)
    (beginning : before <+: tokens) :
    before.count .loopEnd ≤ opened + before.count .loopStart := by
  obtain ⟨behind, rfl⟩ := beginning
  rw [openAfter_append, Option.bind_eq_some_iff] at counted
  obtain ⟨reached, counted, -⟩ := counted
  have total := count_of_openAfter counted
  omega

theorem Nested.count_le {before : List Token} (nested : Nested tokens) (beginning : before <+: tokens) :
    before.count .loopEnd ≤ before.count .loopStart := by
  have bound := count_le_of_openAfter (nested_iff_balanced.1 nested) beginning
  rwa [Nat.zero_add] at bound

/-- The scan fails just where at no place more loops have been ended than started. -/
theorem loopBody_eq_none_iff_count :
    loopBody tokens = none ↔
      ∀ before, before <+: tokens → before.count .loopEnd ≤ before.count .loopStart := by
  constructor
  · intro unclosed before beginning
    obtain ⟨left, counted⟩ := openAfter_of_unclosed unclosed
    have bound := count_le_of_openAfter counted beginning
    rwa [Nat.zero_add] at bound
  · intro never
    rw [loopBody_eq_none_iff]
    rintro body after rfl balanced
    have total := count_of_openAfter balanced
    have whole := never (body ++ [.loopEnd]) ⟨after, by simp⟩
    have starts : [Token.loopEnd].count .loopStart = 0 := rfl
    have ends : [Token.loopEnd].count .loopEnd = 1 := rfl
    rw [List.count_append, List.count_append, starts, ends] at whole
    omega

end Count

/-! ## The scan -/

/-- The tokens are the body of a loop, the bracket that ends it, and what follows. -/
structure LoopTail (tokens body rest : List Token) : Prop where
  split : tokens = body ++ .loopEnd :: rest
  nested : Nested body

section Scan

variable {tokens body rest body' rest' : List Token} {start next : Nat}

theorem loopBody_eq_some_iff_loopTail :
    loopBody tokens = some (body, rest) ↔ LoopTail tokens body rest := by
  rw [loopBody_eq_some_iff, ← nested_iff_balanced]
  exact ⟨fun ⟨split, nested⟩ => ⟨split, nested⟩, fun tail => ⟨tail.split, tail.nested⟩⟩

theorem LoopTail.unique (one : LoopTail tokens body rest) (other : LoopTail tokens body' rest') :
    body = body' ∧ rest = rest' := by
  have found := loopBody_eq_some_iff_loopTail.2 one
  rw [loopBody_eq_some_iff_loopTail.2 other, Option.some.injEq, Prod.mk.injEq] at found
  exact ⟨found.1.symm, found.2.symm⟩

/-- The body of the loop opened just before the index, and the index just behind that loop. -/
def loopBodyAt (tokens : List Token) (start : Nat) : Option (List Token × Nat) :=
  (loopBody (tokens.drop start)).map fun (body, after) => (body, tokens.length - after.length)

theorem loopBodyAt_eq_none_iff : loopBodyAt tokens start = none ↔ loopBody (tokens.drop start) = none :=
  Option.map_eq_none_iff

theorem loopBodyAt_eq_some_iff (inside : start ≤ tokens.length) :
    loopBodyAt tokens start = some (body, next) ↔
      ∃ rest, LoopTail (tokens.drop start) body rest ∧ next = start + body.length + 1 := by
  have behind : ∀ rest, LoopTail (tokens.drop start) body rest →
      tokens.length - rest.length = start + body.length + 1 := by
    intro rest tail
    have total := congrArg List.length tail.split
    rw [List.length_drop, List.length_append, List.length_cons] at total
    omega
  simp only [loopBodyAt, Option.map_eq_some_iff, Prod.exists, Prod.mk.injEq,
    loopBody_eq_some_iff_loopTail]
  constructor
  · rintro ⟨_, rest, tail, rfl, rfl⟩
    exact ⟨rest, tail, behind rest tail⟩
  · rintro ⟨rest, tail, rfl⟩
    exact ⟨body, rest, tail, rfl, behind rest tail⟩

theorem loopBodyAt?_eq_loopBodyAt {indexBits : Nat} (inside : start ≤ tokens.length)
    (words : tokens.length + 1 < 2 ^ indexBits) :
    loopBodyAt? indexBits tokens start = some (loopBodyAt tokens start) := by
  have aligned := Frame.aligned_seek (f := .program tokens) inside
  have cursor := Frame.cursor_seek (f := .program tokens) inside
  have scanned := aligned.loopBodyAt?_eq words
  rw [cursor] at scanned
  exact scanned

end Scan

section EnterLoop

variable {start next : Nat} {f : Frame} {body : List Token}

theorem enterLoop_of_unclosed (unclosed : loopBodyAt f.tokens start = none) (m : Machine)
    (outer : List Frame) :
    m.enterLoop (f.seek start) outer =
      .fail { m with frames := f.seek start :: outer } .invalidSyntax := by
  have missed : loopBody (f.seek start).rest = none := loopBodyAt_eq_none_iff.1 unclosed
  rw [enterLoop, missed]

/-- The frame goes on behind the loop, and unless the current cell is zero the body is on top of it. -/
theorem enterLoop_of_found (inside : start ≤ f.tokens.length)
    (found : loopBodyAt f.tokens start = some (body, next)) (m : Machine) (outer : List Frame) :
    (m.enterLoop (f.seek start) outer).next.frames =
        (if m.tape.current.value = 0 then [] else [.loop body]) ++ f.seek next :: outer ∧
      (m.enterLoop (f.seek start) outer).answer = .ok true := by
  rw [loopBodyAt, Option.map_eq_some_iff] at found
  obtain ⟨⟨_, after⟩, found, same⟩ := found
  rw [Prod.mk.injEq] at same
  obtain ⟨rfl, rfl⟩ := same
  have behind : f.seek (f.tokens.length - after.length) = { f.seek start with rest := after } :=
    (Frame.aligned_seek inside).behind found
  have scanned : loopBody (f.seek start).rest = some (_, after) := found
  rw [enterLoop, scanned, behind]
  by_cases zero : m.tape.current.value = 0
  · simp [zero, Step.proceed]
  · simp [zero, Step.proceed]

end EnterLoop

/-- From any index on, the scan finds a body and an index if and only if the body is nested, a `loopEnd`
stands behind it, and the index is the next one; there is at most one such body. It finds none if and only
if there is none, which is so just where every beginning of the tokens starts at least as many loops as it
ends. So does every beginning of a body that it finds: the count, which is one at first, never falls below
zero on the way, nor does it leave its word. A machine that comes to a loop does as the scan says. -/
theorem scan_finds_loop_end {tokens : List Token} {start : Nat} (inside : start ≤ tokens.length) :
    (∀ body next, loopBodyAt tokens start = some (body, next) ↔
      ∃ rest, LoopTail (tokens.drop start) body rest ∧ next = start + body.length + 1) ∧
    (∀ body rest body' rest', LoopTail (tokens.drop start) body rest →
      LoopTail (tokens.drop start) body' rest' → body = body' ∧ rest = rest') ∧
    (loopBodyAt tokens start = none ↔ ¬∃ body rest, LoopTail (tokens.drop start) body rest) ∧
    (loopBodyAt tokens start = none ↔
      ∀ before, before <+: tokens.drop start → before.count .loopEnd ≤ before.count .loopStart) ∧
    (∀ body next, loopBodyAt tokens start = some (body, next) →
      ∀ before, before <+: body → before.count .loopEnd ≤ before.count .loopStart) ∧
    (∀ indexBits, tokens.length + 1 < 2 ^ indexBits →
      loopBodyAt? indexBits tokens start = some (loopBodyAt tokens start)) ∧
    ∀ (m : Machine) (f : Frame) (outer : List Frame), f.tokens = tokens →
      ((m.enterLoop (f.seek start) outer).answer = .error .invalidSyntax ↔
        loopBodyAt tokens start = none) ∧
      ∀ body next, loopBodyAt tokens start = some (body, next) →
        (m.enterLoop (f.seek start) outer).next.frames =
          (if m.tape.current.value = 0 then [] else [.loop body]) ++ f.seek next :: outer := by
  refine ⟨fun body next => loopBodyAt_eq_some_iff inside, fun _ _ _ _ one other => one.unique other,
    ?_, loopBodyAt_eq_none_iff.trans loopBody_eq_none_iff_count, ?_,
    fun _ words => loopBodyAt?_eq_loopBodyAt inside words, ?_⟩
  · rw [loopBodyAt_eq_none_iff, Option.eq_none_iff_forall_ne_some]
    simp only [Prod.forall, ne_eq, loopBody_eq_some_iff_loopTail, not_exists]
  · intro body next found before beginning
    obtain ⟨_, tail, -⟩ := (loopBodyAt_eq_some_iff inside).1 found
    exact tail.nested.count_le beginning
  · rintro m f outer rfl
    cases found : loopBodyAt f.tokens start with
    | none => simp [enterLoop_of_unclosed found, Step.fail]
    | some split =>
      obtain ⟨body, next⟩ := split
      obtain ⟨frames, answer⟩ := enterLoop_of_found inside found m outer
      simp [frames, answer]

/-- The first of the two sequences has a loop inside the loop; in the second one the outer loop has no
end. -/
theorem inner_loop_passed_over :
    let closed := tokenize "[+[-]>]<"
    let unclosed := tokenize "[+[-]"
    1 ≤ closed.length ∧ LoopTail (closed.drop 1) (tokenize "+[-]>") (tokenize "<") ∧
      loopBodyAt closed 1 = some (tokenize "+[-]>", 7) ∧ closed[7]? = some .left ∧
      loopBodyAt? 64 closed 1 = some (some (tokenize "+[-]>", 7)) ∧
      1 ≤ unclosed.length ∧ loopBodyAt unclosed 1 = none ∧
      (∀ body rest, ¬LoopTail (unclosed.drop 1) body rest) ∧
      ∀ before, before <+: unclosed.drop 1 → before.count .loopEnd ≤ before.count .loopStart := by
  intro closed unclosed
  have inside : 1 ≤ closed.length := by decide
  have tail : LoopTail (closed.drop 1) (tokenize "+[-]>") (tokenize "<") := ⟨by decide, by decide⟩
  obtain ⟨found, -, -, -, -, words, -⟩ := scan_finds_loop_end inside
  have scanned : loopBodyAt closed 1 = some (tokenize "+[-]>", 7) :=
    (found _ _).2 ⟨_, tail, by decide⟩
  have guarded := words 64 (by decide)
  rw [scanned] at guarded
  have inside' : 1 ≤ unclosed.length := by decide
  have missed : loopBodyAt unclosed 1 = none := by decide
  obtain ⟨-, -, absent, even, -⟩ := scan_finds_loop_end inside'
  exact ⟨inside, tail, scanned, by decide, guarded, inside', missed,
    fun body rest tail => absent.1 missed ⟨body, rest, tail⟩, even.1 missed⟩

end TapeMachine

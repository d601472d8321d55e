import TapeMachine.Program.Bracket

/-! Brackets counted from left to right, and the token sequences in which they balance. The scan for
the end of a loop finds exactly the balanced sequence before the next `loopEnd`, whatever follows. -/
namespace TapeMachine

namespace Token

def isBracket : Token → Bool
  | loopStart | loopEnd => true
  | _ => false

theorem isBracket_cases {token : Token} (bracket : token.isBracket = true) :
    token = loopStart ∨ token = loopEnd := by
  cases token <;> simp_all [isBracket]

theorem ne_of_plain {token : Token} (plain : token.isBracket = false) :
    token ≠ loopStart ∧ token ≠ loopEnd := by
  constructor <;> rintro rfl <;> simp [isBracket] at plain

/-- The number of loops open after the token; none at all if it closes a loop that is not open. -/
def open? : Token → (opened : Nat) → Option Nat
  | loopStart, opened => some (opened + 1)
  | loopEnd, 0 => none
  | loopEnd, opened + 1 => some opened
  | _, opened => some opened

theorem open?_plain {token : Token} (plain : token.isBracket = false) (opened : Nat) :
    token.open? opened = some opened := by
  cases token <;> simp_all [open?, isBracket]

theorem open?_eq_none_iff {token : Token} {opened : Nat} :
    token.open? opened = none ↔ token = loopEnd ∧ opened = 0 := by
  cases token <;> cases opened <;> simp [open?]

theorem open?_le {token : Token} {opened left : Nat} (counted : token.open? opened = some left) :
    left ≤ opened + 1 := by
  cases token with
  | loopEnd =>
    cases opened with
    | zero => simp [open?] at counted
    | succ opened =>
      cases counted
      omega
  | _ =>
    cases counted
    omega

/-- Loops that are open further out do not matter to the token. -/
theorem open?_add (token : Token) {opened left : Nat} (more : Nat)
    (counted : token.open? opened = some left) :
    token.open? (opened + more) = some (left + more) := by
  cases token with
  | loopEnd =>
    cases opened with
    | zero => simp [open?] at counted
    | succ opened =>
      rw [Nat.add_right_comm]
      simp_all [open?]
  | _ =>
    simp only [open?, Option.some.injEq] at counted ⊢
    omega

end Token

def openAfter : (opened : Nat) → List Token → Option Nat
  | opened, [] => some opened
  | opened, token :: rest => (token.open? opened).bind (openAfter · rest)

/-- Every loop that is opened is closed, and no other. -/
def Balanced (tokens : List Token) : Prop :=
  openAfter 0 tokens = some 0

instance (tokens : List Token) : Decidable (Balanced tokens) :=
  inferInstanceAs (Decidable (openAfter 0 tokens = some 0))

theorem openAfter_append (opened : Nat) (xs ys : List Token) :
    openAfter opened (xs ++ ys) = (openAfter opened xs).bind (openAfter · ys) := by
  induction xs generalizing opened with
  | nil => rfl
  | cons token xs ih =>
    simp only [List.cons_append, openAfter, Option.bind_assoc, ih]

theorem openAfter_add {opened left : Nat} {tokens : List Token} (more : Nat)
    (counted : openAfter opened tokens = some left) :
    openAfter (opened + more) tokens = some (left + more) := by
  induction tokens generalizing opened with
  | nil =>
    simp only [openAfter, Option.some.injEq] at counted ⊢
    rw [counted]
  | cons token rest ih =>
    simp only [openAfter, Option.bind_eq_some_iff] at counted ⊢
    obtain ⟨next, stepped, counted⟩ := counted
    exact ⟨next + more, token.open?_add more stepped, ih counted⟩

theorem Balanced.keeps {tokens : List Token} (balanced : Balanced tokens) (opened : Nat) :
    openAfter opened tokens = some opened := by
  have shifted := openAfter_add opened balanced
  rwa [Nat.zero_add] at shifted

theorem Balanced.append {xs ys : List Token} (left : Balanced xs) (right : Balanced ys) :
    Balanced (xs ++ ys) := by
  rw [Balanced, openAfter_append, left.keeps]
  exact right

theorem Balanced.of_append {xs ys : List Token} (whole : Balanced (xs ++ ys)) (left : Balanced xs) :
    Balanced ys := by
  rw [Balanced, openAfter_append, left.keeps] at whole
  exact whole

theorem Balanced.left_of_append {xs ys : List Token} (whole : Balanced (xs ++ ys))
    (right : Balanced ys) : Balanced xs := by
  rw [Balanced, openAfter_append, Option.bind_eq_some_iff] at whole
  obtain ⟨opened, counted, closed⟩ := whole
  rw [right.keeps, Option.some.injEq] at closed
  rwa [closed] at counted

theorem balanced_plain {token : Token} (plain : token.isBracket = false) : Balanced [token] := by
  simp [Balanced, openAfter, Token.open?_plain plain]

theorem balanced_loop {body : List Token} (balanced : Balanced body) :
    Balanced (.loopStart :: body ++ [.loopEnd]) := by
  have inside : openAfter 1 body = some 1 := balanced.keeps 1
  simp [Balanced, openAfter, Token.open?, openAfter_append, inside]

theorem not_balanced_loopEnd (rest : List Token) : ¬Balanced (.loopEnd :: rest) := by
  simp [Balanced, openAfter, Token.open?]

/-! ## The end of a loop -/

theorem splitAtPartner_inside {token : Token} {inner next : Nat} (rest : List Token)
    (inside : token.open? inner = some next) :
    splitAtPartner inner (token :: rest) =
      (splitAtPartner next rest).map fun (body, after) => (token :: body, after) := by
  cases token with
  | loopEnd =>
    cases inner with
    | zero => simp [Token.open?] at inside
    | succ inner =>
      simp only [Token.open?, Option.some.injEq] at inside
      rw [splitAtPartner, inside]
  | _ =>
    simp only [Token.open?, Option.some.injEq] at inside
    simp [splitAtPartner, inside]

/-- The scan stops at the first place where the loops opened before it, `inner` of them, and all
opened since are closed. -/
theorem splitAtPartner_eq_some_iff {inner : Nat} {tokens body after : List Token} :
    splitAtPartner inner tokens = some (body, after) ↔
      tokens = body ++ .loopEnd :: after ∧ openAfter inner body = some 0 := by
  induction tokens generalizing inner body with
  | nil => simp [splitAtPartner]
  | cons token rest ih =>
    cases stepped : token.open? inner with
    | none =>
      obtain ⟨rfl, rfl⟩ := Token.open?_eq_none_iff.1 stepped
      cases body with
      | nil => simp [splitAtPartner, openAfter]
      | cons first body =>
        simp only [splitAtPartner, Option.some.injEq, Prod.mk.injEq, reduceCtorEq, false_and,
          List.cons_append, List.cons.injEq, false_iff]
        rintro ⟨⟨rfl, -⟩, closed⟩
        simp [openAfter, stepped] at closed
    | some next =>
      rw [splitAtPartner_inside rest stepped]
      cases body with
      | nil =>
        simp only [Option.map_eq_some_iff, Prod.mk.injEq, reduceCtorEq, false_and, and_false,
          exists_const, List.nil_append, List.cons.injEq, openAfter, Option.some.injEq, false_iff]
        rintro ⟨⟨rfl, -⟩, rfl⟩
        simp [Token.open?] at stepped
      | cons first body =>
        simp only [Option.map_eq_some_iff, Prod.exists, Prod.mk.injEq, List.cons.injEq,
          List.cons_append, openAfter]
        constructor
        · rintro ⟨_, _, found, ⟨rfl, rfl⟩, rfl⟩
          obtain ⟨same, closed⟩ := ih.1 found
          exact ⟨⟨rfl, same⟩, by simpa [stepped] using closed⟩
        · rintro ⟨⟨rfl, same⟩, closed⟩
          exact ⟨body, after, ih.2 ⟨same, by simpa [stepped] using closed⟩, ⟨rfl, rfl⟩, rfl⟩

theorem loopBody_eq_some_iff {tokens body after : List Token} :
    loopBody tokens = some (body, after) ↔ tokens = body ++ .loopEnd :: after ∧ Balanced body :=
  splitAtPartner_eq_some_iff

theorem length_after_loopBody {tokens body after : List Token}
    (found : loopBody tokens = some (body, after)) : after.length ≤ tokens.length := by
  obtain ⟨rfl, -⟩ := loopBody_eq_some_iff.1 found
  rw [List.length_append, List.length_cons]
  omega

theorem loopBody_append {body : List Token} (balanced : Balanced body) (after : List Token) :
    loopBody (body ++ .loopEnd :: after) = some (body, after) :=
  loopBody_eq_some_iff.2 ⟨rfl, balanced⟩

/-- What stands behind a loop does not matter to where it ends. -/
theorem loopBody_followed {tokens body after : List Token}
    (found : loopBody tokens = some (body, after)) (more : List Token) :
    loopBody (tokens ++ more) = some (body, after ++ more) := by
  obtain ⟨rfl, balanced⟩ := loopBody_eq_some_iff.1 found
  rw [List.append_assoc, List.cons_append]
  exact loopBody_append balanced (after ++ more)

/-- The scan goes on where the first tokens end, if they do not close what it looks for. -/
theorem splitAtPartner_append {inner left : Nat} {xs : List Token} (ys : List Token)
    (counted : openAfter inner xs = some left) :
    splitAtPartner inner (xs ++ ys) =
      (splitAtPartner left ys).map fun (body, after) => (xs ++ body, after) := by
  induction xs generalizing inner with
  | nil =>
    cases counted
    simp
  | cons token xs ih =>
    rw [openAfter, Option.bind_eq_some_iff] at counted
    obtain ⟨next, stepped, counted⟩ := counted
    rw [List.cons_append, splitAtPartner_inside (xs ++ ys) stepped, ih counted, Option.map_map]
    rfl

/-- A balanced stretch is passed over, whatever it is. -/
theorem loopBody_around {before stretch : List Token} {opened : Nat} (after : List Token)
    (counted : openAfter 0 before = some opened) (balanced : Balanced stretch) :
    loopBody (before ++ (stretch ++ after)) =
      (splitAtPartner opened after).map fun (body, rest) => (before ++ (stretch ++ body), rest) := by
  rw [loopBody, splitAtPartner_append _ counted, splitAtPartner_append _ (balanced.keeps opened),
    Option.map_map]
  rfl

theorem openAfter_of_unclosed {inner : Nat} {tokens : List Token}
    (unclosed : splitAtPartner inner tokens = none) : ∃ left, openAfter inner tokens = some left := by
  induction tokens generalizing inner with
  | nil => exact ⟨inner, rfl⟩
  | cons token rest ih =>
    cases stepped : token.open? inner with
    | none =>
      obtain ⟨rfl, rfl⟩ := Token.open?_eq_none_iff.1 stepped
      simp [splitAtPartner] at unclosed
    | some next =>
      rw [splitAtPartner_inside rest stepped, Option.map_eq_none_iff] at unclosed
      obtain ⟨left, counted⟩ := ih unclosed
      exact ⟨left, by rw [openAfter, stepped, Option.bind_some, counted]⟩

theorem loopBody_eq_none_iff {tokens : List Token} :
    loopBody tokens = none ↔
      ∀ body after, tokens = body ++ .loopEnd :: after → ¬Balanced body := by
  simp only [Option.eq_none_iff_forall_ne_some, Prod.forall, ne_eq, loopBody_eq_some_iff, not_and]

/-- The scan succeeds if of `more` loops that were open further out not all are open at the end. -/
theorem splitAtPartner_of_openAfter {inner more left : Nat} {tokens : List Token}
    (counted : openAfter (inner + more) tokens = some left) (closed : left < more) :
    ∃ body after, splitAtPartner inner tokens = some (body, after) := by
  induction tokens generalizing inner with
  | nil =>
    simp only [openAfter, Option.some.injEq] at counted
    omega
  | cons token rest ih =>
    cases stepped : token.open? inner with
    | none =>
      obtain ⟨rfl, rfl⟩ := Token.open?_eq_none_iff.1 stepped
      exact ⟨[], rest, rfl⟩
    | some next =>
      rw [openAfter, token.open?_add more stepped] at counted
      obtain ⟨body, after, found⟩ := ih counted
      exact ⟨token :: body, after, by rw [splitAtPartner_inside rest stepped, found]; rfl⟩

theorem Balanced.loop_cases {rest : List Token} (whole : Balanced (.loopStart :: rest)) :
    ∃ body after, rest = body ++ .loopEnd :: after ∧ Balanced body ∧ Balanced after := by
  have counted : openAfter (0 + 1) rest = some 0 := whole
  obtain ⟨body, after, found⟩ := splitAtPartner_of_openAfter counted Nat.zero_lt_one
  obtain ⟨rfl, balanced⟩ := loopBody_eq_some_iff.1 found
  refine ⟨body, after, rfl, balanced, Balanced.of_append ?_ (balanced_loop balanced)⟩
  simpa using whole

theorem Balanced.loop_closed {rest : List Token} (whole : Balanced (.loopStart :: rest)) :
    loopBody rest ≠ none := by
  obtain ⟨body, after, rfl, balanced, -⟩ := whole.loop_cases
  simp [loopBody_append balanced]

/-- Balanced sequences are made token by token and loop by loop. -/
@[elab_as_elim]
theorem Balanced.induction {motive : List Token → Prop} (nil : motive [])
    (plain : ∀ token rest, token.isBracket = false → motive rest → motive (token :: rest))
    (loop : ∀ body after, Balanced body → motive body → motive after →
      motive (.loopStart :: body ++ .loopEnd :: after))
    {tokens : List Token} (balanced : Balanced tokens) : motive tokens := by
  cases tokens with
  | nil => exact nil
  | cons token rest =>
    cases bracket : token.isBracket with
    | false =>
      have behind : Balanced rest := @Balanced.of_append [token] rest balanced (balanced_plain bracket)
      exact plain token rest bracket (induction nil plain loop behind)
    | true =>
      rcases Token.isBracket_cases bracket with rfl | rfl
      · obtain ⟨body, after, rfl, inside, behind⟩ := balanced.loop_cases
        exact loop body after inside (induction nil plain loop inside)
          (induction nil plain loop behind)
      · exact absurd balanced (not_balanced_loopEnd rest)
termination_by tokens.length
decreasing_by all_goals grind

end TapeMachine

import TapeMachine.Proofs.Partner

/-! The table of all pairs of brackets, made in one pass with a stack of the loops still open. It holds
exactly the partners, each pair once. -/
namespace TapeMachine

/-- The pairs closed from the index `k` on; `opened` holds the loops open there, the innermost first.
A `loopEnd` met with no loop open has no pair, and neither has a `loopStart` still open at the end. -/
def pairsFrom : (k : Nat) → (opened : List Nat) → List Token → List (Nat × Nat)
  | _, _, [] => []
  | k, opened, .loopStart :: rest => pairsFrom (k + 1) (k :: opened) rest
  | k, i :: opened, .loopEnd :: rest => (i, k) :: pairsFrom (k + 1) opened rest
  | k, opened, _ :: rest => pairsFrom (k + 1) opened rest

def bracketPairs (tokens : List Token) : List (Nat × Nat) :=
  pairsFrom 0 [] tokens

section Opened

variable {tokens rest : List Token} {token : Token} {opened : List Nat} {i j k : Nat}

/-- The loops open before the index `k`, each at the place that counts the loops open inside it. -/
def OpenedAt (tokens : List Token) (k : Nat) (opened : List Nat) : Prop :=
  ∀ d i, opened[d]? = some i ↔
    i < k ∧ tokens[i]? = some .loopStart ∧ openAfter 0 (slice tokens (i + 1) k) = some d

theorem openAfter_slice_succ (here : tokens[k]? = some token) (before : i < k) :
    openAfter 0 (slice tokens (i + 1) (k + 1)) =
      (openAfter 0 (slice tokens (i + 1) k)).bind token.open? := by
  rw [slice_snoc here before, openAfter_append]
  congr 1
  funext opened
  simp [openAfter]

/-- One token more: the loops open before it, counted on, and the loop it opens itself. -/
theorem OpenedAt.succ_iff (now : OpenedAt tokens k opened) (here : tokens[k]? = some token)
    (d : Nat) :
    (i < k + 1 ∧ tokens[i]? = some .loopStart ∧
        openAfter 0 (slice tokens (i + 1) (k + 1)) = some d) ↔
      (i = k ∧ token = .loopStart ∧ d = 0) ∨
        ∃ e, opened[e]? = some i ∧ token.open? e = some d := by
  constructor
  · rintro ⟨before, opens, counted⟩
    rcases Nat.lt_succ_iff_lt_or_eq.1 before with before | rfl
    · rw [openAfter_slice_succ here before, Option.bind_eq_some_iff] at counted
      obtain ⟨e, counted, stepped⟩ := counted
      exact .inr ⟨e, (now e i).2 ⟨before, opens, counted⟩, stepped⟩
    · rw [here, Option.some.injEq] at opens
      rw [slice_self, openAfter, Option.some.injEq] at counted
      exact .inl ⟨rfl, opens, counted.symm⟩
  · rintro (⟨rfl, rfl, rfl⟩ | ⟨e, stacked, stepped⟩)
    · exact ⟨Nat.lt_succ_self i, here, by rw [slice_self, openAfter]⟩
    · obtain ⟨before, opens, counted⟩ := (now e i).1 stacked
      refine ⟨by omega, opens, ?_⟩
      rw [openAfter_slice_succ here before, counted]
      exact stepped

theorem openedAt_zero : OpenedAt tokens 0 [] := by
  intro d i
  simp

theorem OpenedAt.plain (now : OpenedAt tokens k opened) (here : tokens[k]? = some token)
    (plain : token.isBracket = false) : OpenedAt tokens (k + 1) opened := by
  intro d i
  rw [now.succ_iff here]
  simp [(Token.ne_of_plain plain).1, Token.open?_plain plain]

theorem OpenedAt.loopStart (now : OpenedAt tokens k opened)
    (here : tokens[k]? = some .loopStart) : OpenedAt tokens (k + 1) (k :: opened) := by
  intro d i
  rw [now.succ_iff here]
  cases d with
  | zero => simp [Token.open?, eq_comm]
  | succ d => simp [Token.open?]

theorem OpenedAt.loopEnd (now : OpenedAt tokens k opened) (here : tokens[k]? = some .loopEnd) :
    OpenedAt tokens (k + 1) opened.tail := by
  intro d i
  rw [now.succ_iff here, List.getElem?_tail]
  constructor
  · intro stacked
    exact .inr ⟨d + 1, stacked, rfl⟩
  · rintro (⟨-, impossible, -⟩ | ⟨e, stacked, stepped⟩)
    · simp at impossible
    · cases e with
      | zero => simp [Token.open?] at stepped
      | succ e =>
        simp only [Token.open?, Option.some.injEq] at stepped
        rwa [← stepped]

theorem OpenedAt.partner_iff (now : OpenedAt tokens k opened)
    (here : tokens[k]? = some .loopEnd) : Partner tokens i k ↔ opened.head? = some i := by
  rw [List.head?_eq_getElem?, now 0 i]
  constructor
  · rintro ⟨opens, _, ordered, inside⟩
    exact ⟨ordered, opens, inside⟩
  · rintro ⟨ordered, opens, inside⟩
    exact ⟨opens, here, ordered, inside⟩

theorem OpenedAt.closed_from_iff (now : OpenedAt tokens k opened)
    (here : tokens[k]? = some .loopEnd) :
    Partner tokens i j ∧ k ≤ j ↔
      (opened.head? = some i ∧ j = k) ∨ Partner tokens i j ∧ k + 1 ≤ j := by
  constructor
  · rintro ⟨partner, behind⟩
    rcases Nat.lt_or_eq_of_le behind with behind | rfl
    · exact .inr ⟨partner, behind⟩
    · exact .inl ⟨(now.partner_iff here).1 partner, rfl⟩
  · rintro (⟨innermost, rfl⟩ | ⟨partner, behind⟩)
    · exact ⟨(now.partner_iff here).2 innermost, Nat.le_refl j⟩
    · exact ⟨partner, by omega⟩

/-- As long as no `loopEnd` is too many, the loops open at an index are as many as are counted. -/
theorem exists_openedAt {n : Nat} (counted : openAfter 0 (slice tokens 0 k) = some n)
    (inside : k ≤ tokens.length) : ∃ opened, OpenedAt tokens k opened ∧ opened.length = n := by
  induction k generalizing n with
  | zero =>
    rw [slice_self, openAfter, Option.some.injEq] at counted
    exact ⟨[], openedAt_zero, counted⟩
  | succ k ih =>
    obtain ⟨token, here⟩ : ∃ token, tokens[k]? = some token := ⟨_, List.getElem?_eq_getElem inside⟩
    rw [slice_snoc here (Nat.zero_le k), openAfter_append, Option.bind_eq_some_iff] at counted
    obtain ⟨m, earlier, counted⟩ := counted
    rw [openAfter, Option.bind_eq_some_iff] at counted
    obtain ⟨_, stepped, counted⟩ := counted
    rw [openAfter, Option.some.injEq] at counted
    subst counted
    obtain ⟨opened, now, rfl⟩ := ih earlier (by omega)
    cases plain : token.isBracket with
    | false =>
      rw [Token.open?_plain plain, Option.some.injEq] at stepped
      exact ⟨opened, now.plain here plain, stepped⟩
    | true =>
      rcases Token.isBracket_cases plain with rfl | rfl
      · rw [Token.open?, Option.some.injEq] at stepped
        exact ⟨k :: opened, now.loopStart here, stepped⟩
      · cases opened with
        | nil => simp [Token.open?] at stepped
        | cons top opened =>
          rw [List.length_cons, Token.open?, Option.some.injEq] at stepped
          exact ⟨opened, now.loopEnd here, stepped⟩

/-- In a balanced sequence every bracket has a partner. -/
theorem Balanced.not_lone (balanced : Balanced tokens) (here : tokens[k]? = some token)
    (bracket : token.isBracket = true) : ¬Lone tokens k := by
  intro lone
  have inside := (List.getElem?_eq_some_iff.1 here).1
  have whole : openAfter 0 (slice tokens 0 k ++ slice tokens k tokens.length) = some 0 := by
    rw [slice_append (Nat.zero_le k) (Nat.le_of_lt inside), slice_all]
    exact balanced
  rw [openAfter_append, Option.bind_eq_some_iff, slice_cons here inside] at whole
  obtain ⟨n, counted, closed⟩ := whole
  rcases Token.isBracket_cases bracket with rfl | rfl
  · have open_further : openAfter (0 + (n + 1)) (slice tokens (k + 1) tokens.length) = some 0 := by
      rw [Nat.zero_add]
      exact closed
    obtain ⟨body, after, found⟩ := splitAtPartner_of_openAfter open_further (Nat.succ_pos n)
    exact (lone _).1 (partner_of_loopBody here inside found).1
  · obtain ⟨opened, now, same⟩ := exists_openedAt counted (Nat.le_of_lt inside)
    cases opened with
    | nil =>
      rw [← same] at closed
      exact not_balanced_loopEnd _ closed
    | cons top opened => exact (lone top).2 ((now.partner_iff here).2 rfl)

/-! ## What the table holds -/

theorem pairsFrom_plain (plain : token.isBracket = false) :
    pairsFrom k opened (token :: rest) = pairsFrom (k + 1) opened rest := by
  cases token <;> simp_all [pairsFrom, Token.isBracket]

theorem pairsFrom_stray :
    pairsFrom k [] (.loopEnd :: rest) = pairsFrom (k + 1) [] rest := by
  simp [pairsFrom]

theorem Partner.le_iff_succ_le (partner : Partner tokens i j) (here : tokens[k]? = some token)
    (other : token ≠ .loopEnd) : k + 1 ≤ j ↔ k ≤ j := by
  have distinct : k ≠ j := by
    rintro rfl
    rw [partner.closes, Option.some.injEq] at here
    exact other here.symm
  omega

theorem mem_pairsFrom_iff (now : OpenedAt tokens k opened) (left : tokens.drop k = rest) :
    (i, j) ∈ pairsFrom k opened rest ↔ Partner tokens i j ∧ k ≤ j := by
  induction rest generalizing k opened with
  | nil =>
    simp only [pairsFrom, List.not_mem_nil, false_iff, not_and, Nat.not_le]
    intro partner
    have inside := (List.getElem?_eq_some_iff.1 partner.closes).1
    have short := List.drop_eq_nil_iff.1 left
    omega
  | cons token rest ih =>
    have here : tokens[k]? = some token := by
      rw [← List.head?_drop, left, List.head?_cons]
    have left' : tokens.drop (k + 1) = rest := by
      rw [← List.drop_drop, left]
      rfl
    cases plain : token.isBracket with
    | false =>
      rw [pairsFrom_plain plain, ih (now.plain here plain) left']
      exact and_congr_right fun partner =>
        partner.le_iff_succ_le here (Token.ne_of_plain plain).2
    | true =>
      rcases Token.isBracket_cases plain with rfl | rfl
      · rw [pairsFrom, ih (now.loopStart here) left']
        exact and_congr_right fun partner => partner.le_iff_succ_le here (by simp)
      · rw [now.closed_from_iff here]
        cases opened with
        | nil =>
          have later : (i, j) ∈ pairsFrom (k + 1) [] rest ↔ Partner tokens i j ∧ k + 1 ≤ j :=
            ih (now.loopEnd here) left'
          rw [pairsFrom_stray, later]
          simp
        | cons top opened =>
          have later : (i, j) ∈ pairsFrom (k + 1) opened rest ↔ Partner tokens i j ∧ k + 1 ≤ j :=
            ih (now.loopEnd here) left'
          rw [pairsFrom, List.mem_cons, Prod.mk.injEq, later, List.head?_cons, Option.some.injEq,
            @eq_comm _ top]

end Opened

section Table

variable {tokens rest : List Token} {opened : List Nat} {i j k : Nat}

theorem mem_bracketPairs_iff : (i, j) ∈ bracketPairs tokens ↔ Partner tokens i j :=
  (mem_pairsFrom_iff openedAt_zero List.drop_zero).trans (and_iff_left (Nat.zero_le j))

theorem le_of_mem_pairsFrom {pair : Nat × Nat} (listed : pair ∈ pairsFrom k opened rest) :
    k ≤ pair.2 := by
  fun_induction pairsFrom k opened rest with
  | case1 => simp at listed
  | case2 k opened rest ih | case4 k opened token rest _ _ ih =>
    have behind := ih listed
    omega
  | case3 k i opened rest ih =>
    rcases List.mem_cons.1 listed with rfl | listed
    · exact Nat.le_refl k
    · have behind := ih listed
      omega

theorem nodup_pairsFrom : (pairsFrom k opened rest).Nodup := by
  fun_induction pairsFrom k opened rest with
  | case1 => exact List.nodup_nil
  | case2 k opened rest ih | case4 k opened token rest _ _ ih => exact ih
  | case3 k i opened rest ih =>
    refine List.nodup_cons.2 ⟨fun listed => ?_, ih⟩
    have behind := le_of_mem_pairsFrom listed
    omega

theorem nodup_bracketPairs : (bracketPairs tokens).Nodup :=
  nodup_pairsFrom

/-- The index of the partner of a `loopStart`. -/
def closing? (pairs : List (Nat × Nat)) (i : Nat) : Option Nat :=
  (pairs.find? fun pair => pair.1 == i).map Prod.snd

def opening? (pairs : List (Nat × Nat)) (j : Nat) : Option Nat :=
  (pairs.find? fun pair => pair.2 == j).map Prod.fst

/-- What is looked up by a key that no two pairs share. -/
theorem lookup_eq_some_iff {pairs : List (Nat × Nat)} {key value : Nat × Nat → Nat} {k v : Nat}
    (unique : ∀ x ∈ pairs, ∀ y ∈ pairs, key x = key y → x = y) :
    (pairs.find? fun pair => key pair == k).map value = some v ↔
      ∃ x ∈ pairs, key x = k ∧ value x = v := by
  rw [Option.map_eq_some_iff]
  constructor
  · rintro ⟨x, found, same⟩
    have keyed := List.find?_some found
    exact ⟨x, List.mem_of_find?_eq_some found, beq_iff_eq.1 keyed, same⟩
  · rintro ⟨x, listed, keyed, same⟩
    have hit : (pairs.find? fun pair => key pair == k).isSome :=
      List.find?_isSome.2 ⟨x, listed, beq_iff_eq.2 keyed⟩
    obtain ⟨y, found⟩ := Option.isSome_iff_exists.1 hit
    have keyed' := List.find?_some found
    rw [← unique x listed y (List.mem_of_find?_eq_some found)
      (keyed.trans (beq_iff_eq.1 keyed').symm)] at found
    exact ⟨x, found, same⟩

theorem closing?_eq_some_iff : closing? (bracketPairs tokens) i = some j ↔ Partner tokens i j := by
  have unique : ∀ x ∈ bracketPairs tokens, ∀ y ∈ bracketPairs tokens, x.1 = y.1 → x = y := by
    rintro ⟨i₁, j₁⟩ first ⟨i₂, j₂⟩ second (rfl : i₁ = i₂)
    rw [(mem_bracketPairs_iff.1 first).end_unique (mem_bracketPairs_iff.1 second)]
  rw [closing?, lookup_eq_some_iff unique, ← mem_bracketPairs_iff]
  constructor
  · rintro ⟨_, listed, rfl, rfl⟩
    exact listed
  · intro listed
    exact ⟨_, listed, rfl, rfl⟩

theorem opening?_eq_some_iff : opening? (bracketPairs tokens) j = some i ↔ Partner tokens i j := by
  have unique : ∀ x ∈ bracketPairs tokens, ∀ y ∈ bracketPairs tokens, x.2 = y.2 → x = y := by
    rintro ⟨i₁, j₁⟩ first ⟨i₂, j₂⟩ second (rfl : j₁ = j₂)
    rw [(mem_bracketPairs_iff.1 first).start_unique (mem_bracketPairs_iff.1 second)]
  rw [opening?, lookup_eq_some_iff unique, ← mem_bracketPairs_iff]
  constructor
  · rintro ⟨_, listed, rfl, rfl⟩
    exact listed
  · intro listed
    exact ⟨_, listed, rfl, rfl⟩

end Table

end TapeMachine

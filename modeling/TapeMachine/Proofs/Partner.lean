import TapeMachine.Proofs.Nesting

/-! Which bracket of a token sequence closes which. Two pairs of partners are side by side or one inside
the other, and a balanced stretch of tokens is never crossed by a pair. -/
namespace TapeMachine

section Slice

variable {tokens : List Token} {a b c : Nat} {token : Token}

@[simp] theorem slice_self : slice tokens a a = [] := by
  simp [slice]

theorem slice_all : slice tokens 0 tokens.length = tokens := by
  simp [slice]

theorem slice_take {n : Nat} (inside : a + n ≤ b) :
    (slice tokens a b).take n = slice tokens a (a + n) := by
  have size : a + n - a = n := by omega
  have bound : n ≤ b - a := by omega
  rw [slice, slice, List.take_take, size, Nat.min_eq_left bound]

theorem slice_drop {n : Nat} :
    (slice tokens a b).drop n = slice tokens (a + n) b := by
  have size : b - a - n = b - (a + n) := by omega
  rw [slice, slice, List.drop_take, List.drop_drop, size]

theorem slice_slice {c d : Nat} (ordered : c ≤ d) (inside : a + d ≤ b) :
    slice (slice tokens a b) c d = slice tokens (a + c) (a + d) := by
  have stop : a + c + (d - c) = a + d := by omega
  have bound : a + c + (d - c) ≤ b := by omega
  rw [slice, slice_drop, slice_take bound, stop]

theorem getElem?_slice {k : Nat} (inside : a + k < b) :
    (slice tokens a b)[k]? = tokens[a + k]? := by
  have bound : k < b - a := by omega
  rw [slice, List.getElem?_take, if_pos bound, List.getElem?_drop]

theorem slice_append (first : a ≤ b) (second : b ≤ c) :
    slice tokens a b ++ slice tokens b c = slice tokens a c := by
  obtain ⟨n, rfl⟩ := Nat.exists_eq_add_of_le first
  rw [← slice_take second, ← slice_drop, List.take_append_drop]

theorem length_slice : (slice tokens a b).length = min (b - a) (tokens.length - a) := by
  rw [slice, List.length_take, List.length_drop]

theorem slice_eq_nil (empty : slice tokens a b = []) (ordered : a ≤ b) (inside : b ≤ tokens.length) :
    a = b := by
  have total := congrArg List.length empty
  rw [length_slice, List.length_nil] at total
  omega

theorem slice_parts {xs ys : List Token} (ordered : a ≤ b) (split : slice tokens a b = xs ++ ys) :
    a + xs.length ≤ b ∧ slice tokens a (a + xs.length) = xs ∧
      slice tokens (a + xs.length) b = ys := by
  have bound : xs.length ≤ b - a := by
    have total := congrArg List.length split
    rw [length_slice, List.length_append] at total
    omega
  have inside : a + xs.length ≤ b := by omega
  refine ⟨inside, ?_, ?_⟩
  · rw [← slice_take inside, split, List.take_left]
  · rw [← slice_drop, split, List.drop_left]

theorem slice_succ (here : tokens[a]? = some token) : slice tokens a (a + 1) = [token] := by
  rw [List.getElem?_eq_some_iff] at here
  obtain ⟨bound, same⟩ := here
  rw [slice, List.drop_eq_getElem_cons bound, same]
  simp

theorem slice_cons (here : tokens[a]? = some token) (more : a < b) :
    slice tokens a b = token :: slice tokens (a + 1) b := by
  rw [← slice_append (Nat.le_succ a) more, slice_succ here]
  rfl

theorem slice_snoc (here : tokens[b]? = some token) (more : a ≤ b) :
    slice tokens a (b + 1) = slice tokens a b ++ [token] := by
  rw [← slice_append more (Nat.le_succ b), slice_succ here]

theorem slice_head {rest : List Token} (split : slice tokens a b = token :: rest) :
    tokens[a]? = some token ∧ a < b := by
  have more : a < b := by
    have total := congrArg List.length split
    rw [length_slice, List.length_cons] at total
    omega
  have entry := congrArg List.head? split
  rw [slice, List.head?_take, if_neg (by omega), List.head?_drop] at entry
  exact ⟨entry, more⟩

end Slice

/-- The brackets at the two indices open and close the same loop. -/
structure Partner (tokens : List Token) (i j : Nat) : Prop where
  opens : tokens[i]? = some .loopStart
  closes : tokens[j]? = some .loopEnd
  ordered : i < j
  inside : Balanced (slice tokens (i + 1) j)

section Partner

variable {tokens : List Token} {a b i j k l : Nat}

/-- A loop opened before a balanced stretch and not closed before it is closed after it. -/
theorem Balanced.not_crossed (stretch : Balanced (slice tokens a b)) (partner : Partner tokens i j)
    (before : i < a) (into : a ≤ j) : b ≤ j := by
  refine Nat.le_of_not_lt fun within => ?_
  have inside := partner.inside
  rw [← slice_append (show i + 1 ≤ a by omega) into, Balanced, openAfter_append,
    Option.bind_eq_some_iff] at inside
  obtain ⟨opened, _, closed⟩ := inside
  rw [← slice_append into (show j ≤ b by omega), slice_cons partner.closes (by omega), Balanced,
    openAfter_append, Option.bind_eq_some_iff] at stretch
  obtain ⟨left, counted, rest⟩ := stretch
  -- The stretch up to the end of the loop must have opened a loop for that end to close.
  have spare : left ≠ 0 := by
    rintro rfl
    exact not_balanced_loopEnd _ rest
  have shifted := openAfter_add opened counted
  rw [Nat.zero_add, closed, Option.some.injEq] at shifted
  omega

/-- A loop opened inside a balanced stretch is closed inside it. -/
theorem Balanced.closes_within (stretch : Balanced (slice tokens a b)) (partner : Partner tokens i j)
    (after : a ≤ i) (within : i < b) : j < b := by
  refine Nat.lt_of_not_le fun beyond => ?_
  have inside := partner.inside
  rw [← slice_append (show i + 1 ≤ b by omega) beyond, Balanced, openAfter_append,
    Option.bind_eq_some_iff] at inside
  obtain ⟨left, counted, -⟩ := inside
  rw [← slice_append after (show i ≤ b by omega), slice_cons partner.opens within, Balanced,
    openAfter_append, Option.bind_eq_some_iff] at stretch
  obtain ⟨opened, -, closed⟩ := stretch
  -- The loop is still open at the end of the stretch, on top of what was open before it.
  have shifted := openAfter_add (opened + 1) counted
  rw [Nat.zero_add] at shifted
  simp only [openAfter, Token.open?, Option.bind_some, shifted, Option.some.injEq] at closed
  omega

/-- Partners are partners in every part of the sequence that holds them both. -/
theorem Partner.within (partner : Partner tokens i j) (from_start : a ≤ i) (before_end : j < b) :
    Partner (slice tokens a b) (i - a) (j - a) := by
  have ordered := partner.ordered
  have first : a + (i - a) = i := by omega
  have last : a + (j - a) = j := by omega
  have next : a + (i - a + 1) = i + 1 := by omega
  refine ⟨?_, ?_, by omega, ?_⟩
  · rw [getElem?_slice (by omega), first]
    exact partner.opens
  · rw [getElem?_slice (by omega), last]
    exact partner.closes
  · rw [slice_slice (by omega) (by omega), next, last]
    exact partner.inside

theorem Partner.nested (outer : Partner tokens i j) (inner : Partner tokens k l) (after : i < k)
    (within : k < j) : l < j :=
  outer.inside.closes_within inner after within

theorem Partner.start_ne_end (one : Partner tokens i j) (other : Partner tokens k l) : i ≠ l := by
  rintro rfl
  have opens := one.opens
  simp [other.closes] at opens

theorem Partner.end_unique (one : Partner tokens i j) (other : Partner tokens i l) : j = l := by
  have ordered := one.ordered
  have ordered' := other.ordered
  have upper := one.inside.not_crossed other (by omega) (by omega)
  have lower := other.inside.not_crossed one (by omega) (by omega)
  omega

theorem Partner.start_unique (one : Partner tokens i j) (other : Partner tokens k j) : i = k := by
  rcases Nat.lt_trichotomy i k with first | same | second
  · have impossible := one.nested other first other.ordered
    omega
  · exact same
  · have impossible := other.nested one second one.ordered
    omega

/-- What the scan finds behind a `loopStart` in a part of the sequence is its partner in the whole. -/
theorem partner_of_loopBody {body after : List Token} (opens : tokens[i]? = some .loopStart)
    (ordered : i < b) (found : loopBody (slice tokens (i + 1) b) = some (body, after)) :
    let j := i + 1 + body.length
    Partner tokens i j ∧ j < b ∧ slice tokens (i + 1) j = body ∧ slice tokens (j + 1) b = after := by
  obtain ⟨split, balanced⟩ := loopBody_eq_some_iff.1 found
  obtain ⟨_, left, right⟩ := slice_parts ordered split
  obtain ⟨closes, inside⟩ := slice_head right
  rw [slice_cons closes inside, List.cons.injEq] at right
  refine ⟨⟨opens, closes, by omega, ?_⟩, inside, left, right.2⟩
  rwa [left]

theorem Partner.loopBody (partner : Partner tokens i j) (inside : j < b) :
    loopBody (slice tokens (i + 1) b) =
      some (slice tokens (i + 1) j, slice tokens (j + 1) b) := by
  have ordered := partner.ordered
  refine loopBody_eq_some_iff.2 ⟨?_, partner.inside⟩
  rw [← slice_append (show i + 1 ≤ j by omega) (show j ≤ b by omega),
    slice_cons partner.closes inside]

end Partner

/-- The token at the index is no bracket, or one without a partner. -/
def Lone (tokens : List Token) (k : Nat) : Prop :=
  ∀ l, ¬Partner tokens k l ∧ ¬Partner tokens l k

theorem lone_of_loopStart {tokens : List Token} {k : Nat} (here : tokens[k]? = some .loopStart)
    (unclosed : loopBody (slice tokens (k + 1) tokens.length) = none) : Lone tokens k := by
  intro l
  refine ⟨fun partner => ?_, fun partner => ?_⟩
  · have inside := (List.getElem?_eq_some_iff.1 partner.closes).1
    have found := partner.loopBody inside
    simp [unclosed] at found
  · have closes := partner.closes
    simp [here] at closes

/-- No loop of the sequence reaches across the index: what was opened before it is closed before it. -/
def Settled (tokens : List Token) (k : Nat) : Prop :=
  ∀ i j, Partner tokens i j → i < k → j < k

namespace Settled

variable {tokens : List Token} {k l : Nat}

theorem zero : Settled tokens 0 := by
  intro i j _ before
  omega

theorem lone_of_loopEnd (settled : Settled tokens k) (here : tokens[k]? = some .loopEnd) :
    Lone tokens k := by
  intro l
  refine ⟨fun partner => ?_, fun partner => ?_⟩
  · have opens := partner.opens
    simp [here] at opens
  · have closed := settled l k partner partner.ordered
    omega

theorem succ (settled : Settled tokens k) (lone : Lone tokens k) :
    Settled tokens (k + 1) := by
  intro i j partner before
  rcases Nat.lt_succ_iff_lt_or_eq.1 before with before | rfl
  · have closed := settled i j partner before
    omega
  · exact absurd partner (lone j).1

theorem advance (settled : Settled tokens k) (stretch : Balanced (slice tokens k l)) (ordered : k ≤ l) :
    Settled tokens l := by
  intro i j partner before
  by_cases earlier : i < k
  · have closed := settled i j partner earlier
    omega
  · exact stretch.closes_within partner (by omega) before

end Settled

end TapeMachine

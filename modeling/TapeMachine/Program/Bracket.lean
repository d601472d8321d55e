import TapeMachine.Program.Token

/-! The body of a loop, found by counting brackets from just after its opening. Only the part up to
the partner is looked at; what follows may be unbalanced. -/
namespace TapeMachine

/-- Splits the tokens at the first `loopEnd` that closes a loop opened before them; `inner` counts
the loops opened since. The partner itself belongs to neither side. -/
def splitAtPartner : (inner : Nat) → List Token → Option (List Token × List Token)
  | _, [] => none
  | 0, .loopEnd :: rest => some ([], rest)
  | inner + 1, .loopEnd :: rest =>
    (splitAtPartner inner rest).map fun (body, after) => (.loopEnd :: body, after)
  | inner, .loopStart :: rest =>
    (splitAtPartner (inner + 1) rest).map fun (body, after) => (.loopStart :: body, after)
  | inner, token :: rest =>
    (splitAtPartner inner rest).map fun (body, after) => (token :: body, after)

/-- The body of the loop whose opening stands just before the tokens, and the tokens after the loop. -/
def loopBody (tokens : List Token) : Option (List Token × List Token) :=
  splitAtPartner 0 tokens

/-- The tokens from index `a` up to index `b`, which is not among them. -/
def slice (tokens : List Token) (a b : Nat) : List Token :=
  (tokens.drop a).take (b - a)

/-- Nothing is lost but the partner. -/
theorem eq_of_splitAtPartner {inner : Nat} {tokens body after : List Token}
    (found : splitAtPartner inner tokens = some (body, after)) :
    tokens = body ++ .loopEnd :: after := by
  fun_induction splitAtPartner inner tokens generalizing body after with
  | case1 => simp at found
  | case2 rest => simp_all
  | case3 inner rest ih | case4 inner rest ih | case5 inner token rest _ _ _ ih =>
    simp only [Option.map_eq_some_iff, Prod.exists] at found
    obtain ⟨b, a, split, same⟩ := found
    simp only [Prod.mk.injEq] at same
    obtain ⟨rfl, rfl⟩ := same
    simp [ih split]

end TapeMachine

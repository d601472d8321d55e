/-! Code points sorted into sets by a table of closed intervals. A table need be neither sorted nor
disjoint: membership is membership in some interval. -/
namespace TapeMachine.CodePoint

/-- An interval of code points, both ends included. -/
abbrev Interval := Nat × Nat

def Interval.contains (i : Interval) (c : Char) : Bool :=
  i.1 ≤ c.toNat && c.toNat ≤ i.2

def memberOf (table : List Interval) (c : Char) : Bool :=
  table.any (·.contains c)

theorem memberOf_iff (table : List Interval) (c : Char) :
    memberOf table c = true ↔ ∃ i ∈ table, i.1 ≤ c.toNat ∧ c.toNat ≤ i.2 := by
  simp [memberOf, Interval.contains]

end TapeMachine.CodePoint

import TapeMachine.Text.CodePoint
import TapeMachine.Shell.Pattern.Tree

/-! Sets of characters by intervals of code points, in ascending order and with gaps between them. -/
namespace TapeMachine.Pattern

abbrev Interval := CodePoint.Interval

/-- Adds an interval to intervals in order, joining those that touch. -/
def addInterval (i : Interval) : List Interval → List Interval
  | [] => [i]
  | j :: rest =>
    if i.2 + 1 < j.1 then i :: j :: rest
    else if j.2 + 1 < i.1 then j :: addInterval i rest
    else addInterval (min i.1 j.1, max i.2 j.2) rest

/-- Nothing but the interval is added, whether intervals are joined or not. -/
theorem memberOf_addInterval (i : Interval) (set : List Interval) (c : Char) (hi : i.1 ≤ i.2)
    (hset : ∀ j ∈ set, j.1 ≤ j.2) :
    CodePoint.memberOf (addInterval i set) c =
      (CodePoint.Interval.contains i c || CodePoint.memberOf set c) := by
  induction set generalizing i with
  | nil => simp [addInterval, CodePoint.memberOf]
  | cons j rest ih =>
    have hj : j.1 ≤ j.2 := hset j (by simp)
    have hrest : ∀ k ∈ rest, k.1 ≤ k.2 := fun k hk => hset k (by simp [hk])
    unfold addInterval
    split
    · rfl
    · split
      · have step := ih i hi hrest
        simp only [CodePoint.memberOf, List.any_cons] at step ⊢
        rw [step]
        cases CodePoint.Interval.contains j c <;> cases CodePoint.Interval.contains i c <;> rfl
      · rw [ih _ (by simp only; omega) hrest]
        have joined : CodePoint.Interval.contains (min i.1 j.1, max i.2 j.2) c =
            (CodePoint.Interval.contains i c || CodePoint.Interval.contains j c) := by
          simp only [CodePoint.Interval.contains]
          rw [Bool.eq_iff_iff]
          simp only [Bool.and_eq_true, Bool.or_eq_true, decide_eq_true_eq]
          omega
        simp only [CodePoint.memberOf, List.any_cons]
        rw [joined, Bool.or_assoc]

/-- What lies from `low` to `high` and in none of the intervals, which are in order. -/
def gaps (low high : Nat) : List Interval → List Interval
  | [] => if low ≤ high then [(low, high)] else []
  | (first, last) :: rest =>
    let after := gaps (last + 1) high rest
    if low < first then (low, first - 1) :: after else after

structure Charset where
  intervals : List Interval
  deriving DecidableEq, Repr

namespace Charset

def top : Nat :=
  0x10FFFF

def empty : Charset :=
  ⟨[]⟩

def ofIntervals (intervals : List Interval) : Charset :=
  ⟨intervals.foldl (fun set i => addInterval i set) []⟩

def ofRange (first last : Char) : Charset :=
  ⟨[(first.toNat, last.toNat)]⟩

def single (c : Char) : Charset :=
  ofRange c c

def contains (s : Charset) (c : Char) : Bool :=
  CodePoint.memberOf s.intervals c

def isEmpty (s : Charset) : Bool :=
  s.intervals.isEmpty

def union (s t : Charset) : Charset :=
  ⟨s.intervals.foldl (fun set i => addInterval i set) t.intervals⟩

def complement (s : Charset) : Charset :=
  ⟨gaps 0 top s.intervals⟩

def intersection (s t : Charset) : Charset :=
  (s.complement.union t.complement).complement

def difference (s t : Charset) : Charset :=
  s.intersection t.complement

def symmetricDifference (s t : Charset) : Charset :=
  (s.difference t).union (t.difference s)

def combine : Combination → Charset → Charset → Charset
  | .intersection => intersection
  | .difference => difference
  | .symmetricDifference => symmetricDifference

/-- The only member, if there is just one. -/
def single? (s : Charset) : Option Char :=
  match s.intervals with
  | [(first, last)] => if first = last then some (Char.ofNat first) else none
  | _ => none

def otherCase (s : Charset) : Charset :=
  let upper := (s.intersection (ofRange 'A' 'Z')).intervals
  let lower := (s.intersection (ofRange 'a' 'z')).intervals
  ofIntervals (upper.map (fun i => (i.1 + 32, i.2 + 32)) ++
    lower.map fun i => (i.1 - 32, i.2 - 32))

def folded (s : Charset) : Charset :=
  s.union s.otherCase

end Charset

def ClassName.charset : ClassName → Charset
  | alnum => ⟨[(0x30, 0x39), (0x41, 0x5A), (0x61, 0x7A)]⟩
  | alpha => ⟨[(0x41, 0x5A), (0x61, 0x7A)]⟩
  | ascii => ⟨[(0x00, 0x7F)]⟩
  | blank => ⟨[(0x09, 0x09), (0x20, 0x20)]⟩
  | cntrl => ⟨[(0x00, 0x1F), (0x7F, 0x7F)]⟩
  | digit => ⟨[(0x30, 0x39)]⟩
  | graph => ⟨[(0x21, 0x7E)]⟩
  | lower => ⟨[(0x61, 0x7A)]⟩
  | print => ⟨[(0x20, 0x7E)]⟩
  | punct => ⟨[(0x21, 0x2F), (0x3A, 0x40), (0x5B, 0x60), (0x7B, 0x7E)]⟩
  | space => ⟨[(0x09, 0x0D), (0x20, 0x20)]⟩
  | upper => ⟨[(0x41, 0x5A)]⟩
  | word => ⟨[(0x30, 0x39), (0x41, 0x5A), (0x5F, 0x5F), (0x61, 0x7A)]⟩
  | xdigit => ⟨[(0x30, 0x39), (0x41, 0x46), (0x61, 0x66)]⟩

def Shorthand.charset : Shorthand → Charset
  | digit => ClassName.digit.charset
  | space => ClassName.space.charset
  | word => ClassName.word.charset

end TapeMachine.Pattern

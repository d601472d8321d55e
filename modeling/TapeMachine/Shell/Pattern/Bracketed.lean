import TapeMachine.Shell.Pattern.Escape

/-! Sets of characters in brackets. Inside, a bracket opens a set in the set, and two sets are combined
by a doubled sign, from left to right. -/
namespace TapeMachine.Pattern

/-- A bracket that is not closed yet. -/
structure OpenClass where
  /-- The opening bracket and what belongs to it. -/
  opening : Span
  negated : Bool
  /-- The left side of a combination whose right side is being read. -/
  left : Option (Combination × ClassTree) := none
  /-- Where the items begin. -/
  start : Nat
  /-- The items so far, the latest first. -/
  items : List ClassTree := []

namespace OpenClass

def push (c : OpenClass) (item : ClassTree) : OpenClass :=
  { c with items := item :: c.items }

def content (c : OpenClass) : ClassTree :=
  let right := ClassTree.ofItems c.start c.items.reverse
  match c.left with
  | none => right
  | some (how, left) => .combined ⟨left.span.start, right.span.stop⟩ how left right

def combine (c : OpenClass) (how : Combination) (start : Nat) : OpenClass :=
  { c with left := some (how, c.content), start, items := [] }

def close (c : OpenClass) (stop : Nat) : ClassTree :=
  .bracketed ⟨c.opening.start, stop⟩ c.negated c.content

end OpenClass

def namedClass? : List Char → Option (Bool × ClassName × Nat)
  | '[' :: ':' :: body =>
    let negated := body.head? = some '^'
    let body := if negated then body.drop 1 else body
    let name := body.takeWhile (· != ':')
    match body.drop name.length, ClassName.ofText? (String.ofList name) with
    | ':' :: ']' :: _, some n => some (negated, n, name.length + if negated then 5 else 4)
    | _, _ => none
  | _ => none

namespace Reading

def named? : Reading (Option ClassTree) := do
  let start ← offset
  match namedClass? (← get).rest with
  | none => return none
  | some (negated, name, length) =>
    modify (·.drop length)
    return some (.named (← spanFrom start) negated name)

def hyphens (start : Nat) : Nat → Reading (List ClassTree)
  | 0 => return []
  | limit + 1 => do
    if (← current?) = some '-' then
      let item := ClassTree.literal ⟨← spanCurrent, '-', false⟩
      if (← nextSolid?).isNone then fail .classUnclosed ⟨start, start⟩
      return item :: (← hyphens start limit)
    else return []

/-- An opening bracket. A closing bracket that stands first is an item. -/
def openClass : Reading OpenClass := do
  let start ← offset
  let more (next : Option Char) : Reading Unit := do
    if next.isNone then fail .classUnclosed (← spanFrom start)
  more (← nextSolid?)
  let negated := (← current?) = some '^'
  if negated then more (← nextSolid?)
  let first ← offset
  let mut items ← hyphens start (← get).length
  if items.isEmpty && (← current?) = some ']' then
    items := [.literal ⟨← spanCurrent, ']', false⟩]
    more (← nextSolid?)
  return { opening := ← spanFrom start, negated, start := first, items := items.reverse }

def classPiece : Reading Piece := do
  match ← current? with
  | none => fail .escapeEnd (← spanHere)
  | some c =>
    if c = '\\' then escape
    else
      let span ← spanCurrent
      let _ ← next?
      return .literal ⟨span, c, false⟩

def alone : Piece → Reading ClassTree
  | .literal l => return .literal l
  | .characters c => return c
  | .assertion span _ => fail .classEscape span

def boundary : Piece → Reading Literal
  | .literal l => return l
  | p => fail .classRangeBoundary p.span

def classItem (opening : Span) : Reading ClassTree := do
  let first ← classPiece
  skipBlanks
  match ← current? with
  | none => fail .classUnclosed opening
  | some c =>
    let after := (← get).afterHyphen?
    if c != '-' || after = some ']' || after = some '-' then alone first
    else
      if (← nextSolid?).isNone then fail .classUnclosed opening
      let last ← classPiece
      let span := ⟨first.span.start, last.span.stop⟩
      let low ← boundary first
      let high ← boundary last
      if low.char ≤ high.char then return .range span low high
      else fail .classRange span

def combination? : Reading (Option Combination) := do
  if ← accept "&&" then return some .intersection
  else if ← accept "--" then return some .difference
  else if ← accept "~~" then return some .symmetricDifference
  else return none

/-- Reads on inside an open bracket until the outermost bracket is closed. Every turn passes over a
character, so that the length of the pattern is no limit. -/
def classItems : Nat → List OpenClass → OpenClass → Reading ClassTree
  | 0, _, c => fail .classUnclosed c.opening
  | limit + 1, outer, c => do
    skipBlanks
    match ← current? with
    | none => fail .classUnclosed c.opening
    | some '[' =>
      match ← named? with
      | some item => classItems limit outer (c.push item)
      | none => classItems limit (c :: outer) (← openClass)
    | some ']' =>
      let _ ← next?
      let closed := c.close (← offset)
      match outer with
      | [] => return closed
      | around :: outer => classItems limit outer (around.push closed)
    | some _ =>
      match ← combination? with
      | some how => classItems limit outer (c.combine how (← offset))
      | none => classItems limit outer (c.push (← classItem c.opening))

def bracketed : Reading ClassTree := do
  let c ← openClass
  classItems (← get).length [] c

end Reading

end TapeMachine.Pattern

import TapeMachine.Shell.Pattern.Tree

/-! How deep a pattern may be. Groups, repetitions, brackets and whatever holds several parts count; what
is deeper than the limit is refused where it is met first, reading from left to right. -/
namespace TapeMachine.Pattern

def depthLimit : Nat :=
  250

mutual

/-- The first part of a set that lies too deep if so many more levels are allowed. -/
def ClassTree.tooDeep? : ClassTree → Nat → Option Span
  | .bracketed span .., 0 | .union span .., 0 | .combined span .., 0 => some span
  | .bracketed _ _ content, room + 1 => content.tooDeep? room
  | .union _ items, room + 1 => firstDeepItem? items room
  | .combined _ _ left right, room + 1 => (left.tooDeep? room).or (right.tooDeep? room)
  | _, _ => none

def firstDeepItem? : List ClassTree → Nat → Option Span
  | [], _ => none
  | item :: items, room => (item.tooDeep? room).or (firstDeepItem? items room)

end

mutual

/-- The first part that lies too deep if so many more levels are allowed. -/
def Tree.tooDeep? : Tree → Nat → Option Span
  | .characters c, room => c.tooDeep? room
  | .repetition span .., 0 | .group span .., 0 | .sequence span .., 0
  | .alternatives span .., 0 => some span
  | .repetition _ _ _ _ body, room + 1 | .group _ _ _ body, room + 1 => body.tooDeep? room
  | .sequence _ parts, room + 1 | .alternatives _ parts, room + 1 => firstDeepPart? parts room
  | _, _ => none

def firstDeepPart? : List Tree → Nat → Option Span
  | [], _ => none
  | part :: parts, room => (part.tooDeep? room).or (firstDeepPart? parts room)

end

def Tree.checkDepth (t : Tree) : Except Flaw Unit :=
  match t.tooDeep? depthLimit with
  | some span => .error { mistake := .tooDeep depthLimit, span }
  | none => .ok ()

end TapeMachine.Pattern

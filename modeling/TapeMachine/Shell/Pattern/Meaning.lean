import TapeMachine.Shell.Pattern.Expression

/-! From the tree of a pattern to its meaning. Flags are followed as they are switched, from left to
right, over the branches of a choice as well; the end of a group puts them back. Letters of other scripts
have no known other case here, and no set of characters is known by its properties. -/
namespace TapeMachine.Pattern

structure Modes where
  ignoreCase : Bool := false
  anchorLines : Bool := false
  dotAll : Bool := false
  preferShort : Bool := false
  wide : Bool := true
  returns : Bool := false
  deriving DecidableEq, Repr

namespace Modes

def switched (m : Modes) (changes : Changes) : Modes where
  ignoreCase := (changes.value? .ignoreCase).getD m.ignoreCase
  anchorLines := (changes.value? .anchorLines).getD m.anchorLines
  dotAll := (changes.value? .dotAll).getD m.dotAll
  preferShort := (changes.value? .preferShort).getD m.preferShort
  wide := (changes.value? .wide).getD m.wide
  returns := (changes.value? .returns).getD m.returns

end Modes

abbrev Outcome := Except Flaw

def flawed {α : Type} (mistake : Mistake) (span : Span) : Outcome α :=
  .error { mistake, span }

/-! ## Sets of characters -/

structure Draft where
  set : Charset
  /-- Known to hold both cases of its letters. -/
  closed : Bool

namespace Draft

def empty : Draft :=
  ⟨.empty, true⟩

def union (d e : Draft) : Draft :=
  ⟨d.set.union e.set, d.closed && e.closed⟩

def complement (d : Draft) : Draft :=
  ⟨d.set.complement, d.closed || d.set.isEmpty⟩

/-- Takes in the other case of all letters, if case does not matter. -/
def fold (d : Draft) (m : Modes) (span : Span) : Outcome Draft :=
  if !m.ignoreCase || d.closed || d.set.isEmpty then .ok d
  else if m.wide then flawed .foldingUnavailable span
  else .ok ⟨d.set.folded, true⟩

/-- A finished set, negated if that is wanted. What is left when single bytes are taken away would hold
bytes that are no characters. -/
def finish (d : Draft) (m : Modes) (span : Span) (negated : Bool) : Outcome Draft := do
  let d ← d.fold m span
  if !negated then return d
  else if m.wide then return d.complement
  else flawed .notText span

end Draft

namespace Modes

/-- A character as it is written; when characters are bytes, a byte must be a character. -/
def char (m : Modes) (l : Literal) : Outcome Char :=
  if !m.wide && l.asByte && 0x7F < l.char.toNat then flawed .notText l.span else .ok l.char

/-- A character in a set; when characters are bytes, only ASCII is allowed. -/
def member (m : Modes) (l : Literal) : Outcome Char := do
  let c ← m.char l
  if !m.wide && 0x7F < c.toNat then flawed .wideInByteMode l.span else return c

end Modes

/-- The name of a property without what does not matter in it: `is` in front, blanks, hyphens, low
lines, the case of letters, and whatever is not ASCII. -/
def looseName (name : String) : String :=
  let letters := name.toList
  let letters := if (letters.take 2).map Char.toLower = ['i', 's'] then letters.drop 2 else letters
  String.ofList ((letters.filter fun c =>
    c.toNat < 128 && c != ' ' && c != '_' && c != '-').map Char.toLower)

/-- No property is known. Three names are looked for among the values of a property. -/
def propertyMistake (name : String) : Mistake :=
  if name.contains ':' || name.contains '=' then .propertyUnknown
  else if ["cf", "sc", "lc"].contains (looseName name) then .propertyValueUnknown
  else .propertyUnknown

mutual

def ClassTree.meaning (m : Modes) : ClassTree → Outcome Draft
  | .empty _ => .ok .empty
  | .literal l => do return ⟨.single (← m.member l), false⟩
  | .range _ first last => do return ⟨.ofRange (← m.member first) (← m.member last), false⟩
  | .named span negated name => Draft.finish ⟨name.charset, false⟩ m span negated
  | .shorthand span negated s =>
    if m.wide then flawed .shorthandUnavailable span
    else if negated then flawed .notText span
    else .ok ⟨s.charset, false⟩
  | .property span name =>
    if m.wide then flawed (propertyMistake name) span else flawed .wideInByteMode span
  | .bracketed span negated content => do (← content.meaning m).finish m span negated
  | .union _ items => unionOfMeanings m items
  | .combined _ how left right => do
    let l ← left.meaning m
    let r ← right.meaning m
    let r ← r.fold m right.span
    let l ← l.fold m left.span
    return ⟨.combine how l.set r.set, l.closed && r.closed⟩

def unionOfMeanings (m : Modes) : List ClassTree → Outcome Draft
  | [] => .ok .empty
  | item :: items => do return (← item.meaning m).union (← unionOfMeanings m items)

end

/-! ## Patterns -/

namespace Modes

def literal (m : Modes) (l : Literal) : Outcome Expression := do
  let c ← m.char l
  if !m.ignoreCase then return .literal [c]
  else if m.wide then flawed .foldingUnavailable l.span
  else return .ofSet false (Charset.single c).folded

def dot (m : Modes) (span : Span) : Outcome Expression :=
  if !m.wide then flawed .notText span
  else if m.dotAll then .ok (.ofSet true Charset.empty.complement)
  else if m.returns then .ok (.ofSet true (Charset.mk [(0x0A, 0x0A), (0x0D, 0x0D)]).complement)
  else .ok (.ofSet true (Charset.single '\n').complement)

def look (m : Modes) : Assertion → Look
  | .lineStart => if m.anchorLines then .lineStart m.returns else .textStart
  | .lineEnd => if m.anchorLines then .lineEnd m.returns else .textEnd
  | .textStart => .textStart
  | .textEnd => .textEnd
  | .boundary => .word m.wide .boundary
  | .noBoundary => .word m.wide .noBoundary
  | .wordStart => .word m.wide .wordStart
  | .wordEnd => .word m.wide .wordEnd
  | .wordStartHalf => .word m.wide .wordStartHalf
  | .wordEndHalf => .word m.wide .wordEndHalf

end Modes

mutual

/-- The meaning of a tree where some flags hold, which it may switch for what follows. -/
def Tree.meaning : Tree → StateT Modes Outcome Expression
  | .empty _ => return .nothing
  | .switch _ changes => do
    modify (·.switched changes)
    return .nothing
  | .literal l => do (← get).literal l
  | .dot span => do (← get).dot span
  | .assertion _ a => return .look ((← get).look a)
  | .characters c => do
    let m ← get
    return .ofSet m.wide (← c.meaning m).set
  | .repetition _ min max greedy body => do
    let m ← get
    return .repeated min max (greedy != m.preferShort) (← body.meaning)
  | .group _ capturing changes body => do
    let before ← get
    set (before.switched changes)
    let e ← body.meaning
    set before
    return if capturing then .captured e else e
  | .sequence _ parts => return .inSequence (← meanings parts)
  | .alternatives _ branches => return .oneOfAll (← meanings branches)

def meanings : List Tree → StateT Modes Outcome (List Expression)
  | [] => return []
  | t :: ts => do
    let e ← t.meaning
    return e :: (← meanings ts)

end

def Tree.expression (t : Tree) : Outcome Expression :=
  (·.1) <$> t.meaning.run {}

end TapeMachine.Pattern

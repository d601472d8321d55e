import TapeMachine.Shell.Pattern.Letter
import TapeMachine.Shell.Pattern.Bracketed

/-! From the text of a pattern to its tree: sequences, alternatives, groups and repetitions. What is
open is kept in a list, so that the depth of a pattern does not matter here. -/
namespace TapeMachine.Pattern

/-- What is read so far between two parentheses, or at the outermost level. -/
structure Level where
  /-- Where the level begins. -/
  start : Nat
  /-- The alternatives that are read, the latest first. -/
  branches : List Tree := []
  /-- Where the present alternative begins. -/
  branchStart : Nat := start
  /-- The parts of the present alternative, the latest first. -/
  parts : List Tree := []

namespace Level

def push (l : Level) (part : Tree) : Level :=
  { l with parts := part :: l.parts }

def branch (l : Level) (stop : Nat) : Tree :=
  Tree.ofParts ⟨l.branchStart, stop⟩ l.parts.reverse

def split (l : Level) (bar : Nat) : Level :=
  { start := l.start, branches := l.branch bar :: l.branches, branchStart := bar + 1 }

def tree (l : Level) (stop : Nat) : Tree :=
  if l.branches.isEmpty then l.branch stop
  else .alternatives ⟨l.start, stop⟩ (l.branch stop :: l.branches).reverse

end Level

/-- A group that is not closed yet. -/
structure OpenGroup where
  opening : Span
  capturing : Bool
  changes : Changes
  /-- Whether blanks meant nothing before the group. -/
  spaced : Bool
  outer : Level

def OpenGroup.close (g : OpenGroup) (body : Tree) (stop : Nat) : Level :=
  g.outer.push (.group ⟨g.opening.start, stop⟩ g.capturing g.changes body)

inductive Opening where
  | switch (span : Span) (changes : Changes)
  | group (capturing : Bool) (changes : Changes)

/-- A flag or, if there is none, the sign of negation, with its place. -/
abbrev FlagItem := Option Flag × Span

/-- The flags in front of the negation are switched on, those after it off. -/
def changesOf (on : Bool) : List FlagItem → Changes
  | [] => []
  | (some flag, _) :: rest => (flag, on) :: changesOf on rest
  | (none, _) :: rest => changesOf false rest

def startsName (c : Char) : Bool :=
  c = '_' || isLetter c

def continuesName (c : Char) : Bool :=
  "_.[]".toList.contains c || isLetter c || isNumber c

namespace Reading

/-! ## Groups -/

def nameCharacters (fits : Char → Bool) : Nat → Reading (List Char)
  | 0 => return []
  | limit + 1 => do
    match ← current? with
    | none => fail .nameEnd (← spanHere)
    | some '>' => return []
    | some c =>
      if fits c then
        let _ ← next?
        return c :: (← nameCharacters continuesName limit)
      else fail .nameCharacter (← spanCurrent)

def groupName : Reading Unit := do
  let start ← offset
  let name ← nameCharacters startsName ((← get).length + 1)
  let span ← spanFrom start
  let _ ← next?
  if name.isEmpty then fail .nameEmpty span
  let name := String.ofList name
  if let some earlier := (← get).names.lookup name then fail .nameDuplicate span (some earlier)
  modify fun c => { c with names := (name, span) :: c.names }

/-- Flags up to a colon or a closing parenthesis; `items` are those so far, the latest first. -/
def flagItems (items : List FlagItem) : Nat → Reading (List FlagItem)
  | 0 => return items.reverse
  | limit + 1 => do
    let here ← spanCurrent
    match ← current? with
    | none => fail .flagEnd (← spanHere)
    | some c =>
      if c = ':' || c = ')' then
        match items with
        | (none, sign) :: _ => fail .flagDangling sign
        | _ => return items.reverse
      else
        let flag ←
          if c = '-' then pure none
          else
            match Flag.ofChar? c with
            | some flag => pure (some flag)
            | none => fail .flagUnknown here
        if let some earlier := items.lookup flag then
          fail (if flag.isNone then .flagRepeatedNegation else .flagDuplicate) here (some earlier)
        if (← next?).isNone then fail .flagEnd (← spanHere)
        flagItems ((flag, here) :: items) limit

/-- After a parenthesis and a question mark: flags for a group or from here on. -/
def flagged (opening inner : Span) : Reading Opening := do
  if (← current?).isNone then fail .groupUnclosed opening
  let items ← flagItems [] ((← get).length + 1)
  let closing ← current?
  let _ ← next?
  if closing = some ')' then
    if items.isEmpty then fail .nothingToRepeat inner
    return .switch (← spanFrom opening.start) (changesOf true items)
  else return .group false (changesOf true items)

def opened : Reading (Span × Opening) := do
  let opening ← spanCurrent
  let _ ← nextSolid?
  for sign in ["?=", "?!", "?<=", "?<!"] do
    if ← accept sign then fail .lookAround (← spanFrom opening.start)
  let inner ← spanHere
  if (← accept "?P<") || (← accept "?<") then
    groupName
    return (opening, .group true [])
  else if ← accept "?" then return (opening, ← flagged opening inner)
  else return (opening, .group true [])

/-! ## Repetitions -/

def repeated (l : Level) : Reading (Tree × Level) := do
  match l.parts with
  | [] => fail .nothingToRepeat (← spanHere)
  | part :: parts =>
    if part.isRepeatable then return (part, { l with parts })
    else fail .nothingToRepeat (← spanHere)

def repeatedBySign (l : Level) (min : Nat) (max : Option Nat) : Reading Level := do
  let (part, l) ← repeated l
  let short := (← next?) = some '?'
  if short then
    let _ ← next?
  return l.push (.repetition ⟨part.span.start, ← offset⟩ min max (!short) part)

/-- A count, or what is wrong with it, which need not matter. -/
def count : Reading (Except Flaw Nat) := do
  modify fun c => c.drop (c.rest.takeWhile isBlank).length
  let start ← offset
  let digits ← takeWhile Char.isDigit
  let span ← spanFrom start
  let _ ← takeWhile isBlank
  let value := digits.foldl (fun value d => 10 * value + (d.toNat - '0'.toNat)) 0
  if digits.isEmpty then return .error { mistake := .countEmpty, span }
  else if UInt32.size ≤ value then return .error { mistake := .countTooLarge, span }
  else return .ok value

/-- The least and the greatest count of a repetition by counts, with the cursor after the opening
brace, which is at `start`. A comma that nothing follows leaves the greatest count open. -/
def counts (start : Nat) : Reading (Nat × Option Nat) := do
  let first ← count
  match ← current? with
  | none => fail .countUnclosed (← spanFrom start)
  | some ',' =>
    match ← nextSolid? with
    | none => fail .countUnclosed (← spanFrom start)
    | some '}' => return (← liftM first, none)
    | some _ =>
      let least ← liftM first
      let greatest ← liftM (← count)
      return (least, some greatest)
  | some _ =>
    let exactly ← liftM first
    return (exactly, some exactly)

def repeatedByCounts (l : Level) : Reading Level := do
  let start ← offset
  let (part, l) ← repeated l
  if (← nextSolid?).isNone then fail .countUnclosed (← spanFrom start)
  let (min, max) ← counts start
  if (← current?) != some '}' then fail .countUnclosed (← spanFrom start)
  let short := (← nextSolid?) = some '?'
  if short then
    let _ ← next?
  let stop ← offset
  if max.any (· < min) then fail .countRange ⟨start, stop⟩
  return l.push (.repetition ⟨part.span.start, stop⟩ min max (!short) part)

/-! ## Levels -/

def part (c : Char) : Reading Tree := do
  if c = '\\' then return (← escape).tree
  let span ← spanCurrent
  let _ ← next?
  match c with
  | '.' => return .dot span
  | '^' => return .assertion span .lineStart
  | '$' => return .assertion span .lineEnd
  | _ => return .literal ⟨span, c, false⟩

/-- At the end of the pattern no group may be open. -/
def finish (groups : List OpenGroup) (l : Level) : Reading Tree := do
  match groups with
  | [] => return l.tree (← offset)
  | g :: _ => fail .groupUnclosed g.opening

/-- Reads to the end of the pattern. Every turn passes over a character, so that the length of the
pattern is no limit. -/
def levels : Nat → List OpenGroup → Level → Reading Tree
  | 0, groups, l => finish groups l
  | limit + 1, groups, l => do
    skipBlanks
    match ← current? with
    | none => finish groups l
    | some '(' =>
      match ← opened with
      | (_, .switch span changes) =>
        modify fun c => { c with spaced := (changes.value? .spaced).getD c.spaced }
        levels limit groups (l.push (.switch span changes))
      | (opening, .group capturing changes) =>
        let spaced := (← get).spaced
        modify fun c => { c with spaced := (changes.value? .spaced).getD spaced }
        levels limit ({ opening, capturing, changes, spaced, outer := l } :: groups)
          { start := ← offset }
    | some ')' =>
      match groups with
      | [] => fail .groupUnopened (← spanCurrent)
      | g :: groups =>
        let body := l.tree (← offset)
        modify fun c => { c.advance with spaced := g.spaced }
        levels limit groups (g.close body (← offset))
    | some '|' =>
      let bar ← offset
      let _ ← next?
      levels limit groups (l.split bar)
    | some '[' => levels limit groups (l.push (.characters (← bracketed)))
    | some '?' => levels limit groups (← repeatedBySign l 0 (some 1))
    | some '*' => levels limit groups (← repeatedBySign l 0 none)
    | some '+' => levels limit groups (← repeatedBySign l 1 none)
    | some '{' => levels limit groups (← repeatedByCounts l)
    | some c => levels limit groups (l.push (← part c))

end Reading

def Tree.ofText (text : String) : Except Flaw Tree :=
  let pattern := text.toList
  (·.1) <$>
    (Reading.levels pattern.length [] { start := 0 }).run { rest := pattern, length := pattern.length }

end TapeMachine.Pattern

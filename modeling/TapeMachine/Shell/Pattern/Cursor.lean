import TapeMachine.Text.Blank
import TapeMachine.Shell.Pattern.Flaw

/-! A place inside a pattern that is being read, and reading as a computation that moves it and may end
with a flaw. -/
namespace TapeMachine.Pattern

structure Cursor where
  rest : List Char
  /-- The length of the whole pattern. -/
  length : Nat
  offset : Nat := 0
  /-- Blanks and comments are passed over. -/
  spaced : Bool := false
  /-- The names given to groups so far. -/
  names : List (String × Span) := []

namespace Cursor

/-- How many characters in front are blanks or belong to comments, which go from `#` to the end of the
line. -/
def blankLength (inComment : Bool) : List Char → Nat
  | [] => 0
  | c :: rest =>
    if inComment then blankLength (c != '\n') rest + 1
    else if isBlank c then blankLength false rest + 1
    else if c = '#' then blankLength true rest + 1
    else 0

/-- Passes over a character, if there is one. -/
def advance (c : Cursor) : Cursor :=
  match c.rest with
  | [] => c
  | _ :: rest => { c with rest, offset := c.offset + 1 }

def drop (c : Cursor) (count : Nat) : Cursor :=
  Nat.repeat advance count c

def skipBlanks (c : Cursor) : Cursor :=
  if c.spaced then c.drop (blankLength false c.rest) else c

/-- The character that decides what a hyphen in a set means. Past the hyphen blanks are passed over, and
the first `#` is as well; if nothing else follows it is the character just after the hyphen. -/
def afterHyphen? (c : Cursor) : Option Char :=
  let following := c.rest.drop 1
  if c.spaced then
    match following.dropWhile isBlank with
    | '#' :: rest => ((rest.dropWhile isBlank).head?).or following.head?
    | rest => rest.head?.or following.head?
  else following.head?

end Cursor

abbrev Reading := StateT Cursor (Except Flaw)

namespace Reading

def fail {α : Type} (mistake : Mistake) (span : Span) (earlier : Option Span := none) : Reading α :=
  throw { mistake, span, earlier }

def offset : Reading Nat :=
  return (← get).offset

def current? : Reading (Option Char) :=
  return (← get).rest.head?

def spanFrom (start : Nat) : Reading Span :=
  return ⟨start, ← offset⟩

def spanHere : Reading Span := do
  spanFrom (← offset)

def spanCurrent : Reading Span := do
  let start ← offset
  return ⟨start, start + 1⟩

def skipBlanks : Reading Unit :=
  modify Cursor.skipBlanks

def next? : Reading (Option Char) := do
  modify Cursor.advance
  current?

/-- Passes over the current character and what means nothing after it, and tells the next one. -/
def nextSolid? : Reading (Option Char) := do
  modify fun c => c.advance.skipBlanks
  current?

/-- Passes over a text if it stands here. -/
def accept (text : String) : Reading Bool := do
  let here := text.toList.isPrefixOf (← get).rest
  if here then modify (·.drop text.length)
  return here

/-- The characters from here on that satisfy `p`, `limit` at most, without what means nothing between
them. -/
def takeUpTo (p : Char → Bool) : Nat → Reading (List Char)
  | 0 => return []
  | limit + 1 => do
    match ← current? with
    | none => return []
    | some c =>
      if p c then
        let _ ← nextSolid?
        return c :: (← takeUpTo p limit)
      else return []

def takeWhile (p : Char → Bool) : Reading (List Char) := do
  takeUpTo p (← get).length

end Reading

end TapeMachine.Pattern

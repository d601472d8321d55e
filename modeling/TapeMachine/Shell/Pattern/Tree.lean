import TapeMachine.Shell.Pattern.Flaw

/-! A search pattern as it is written: what stands where, before it is given a meaning. -/
namespace TapeMachine.Pattern

inductive Flag where
  /-- Letters stand for their other case as well. -/
  | ignoreCase
  /-- The anchors hold at every line. -/
  | anchorLines
  /-- The dot stands for the end of a line as well. -/
  | dotAll
  /-- Repetitions take as little as they can unless told otherwise. -/
  | preferShort
  /-- Characters are code points, not single bytes. -/
  | wide
  /-- A carriage return ends a line as well. -/
  | returns
  /-- Blanks and comments in the pattern mean nothing. -/
  | spaced
  deriving DecidableEq, Repr

def Flag.ofChar? : Char → Option Flag
  | 'i' => some ignoreCase
  | 'm' => some anchorLines
  | 's' => some dotAll
  | 'U' => some preferShort
  | 'u' => some wide
  | 'R' => some returns
  | 'x' => some spaced
  | _ => none

abbrev Changes := List (Flag × Bool)

/-- What a flag is switched to, if it is. -/
def Changes.value? (changes : Changes) (flag : Flag) : Option Bool :=
  changes.lookup flag

structure Literal where
  span : Span
  char : Char
  /-- Written by the two digits of a byte. -/
  asByte : Bool := false
  deriving DecidableEq, Repr

inductive Assertion where
  | lineStart
  | lineEnd
  | textStart
  | textEnd
  | boundary
  | noBoundary
  | wordStart
  | wordEnd
  | wordStartHalf
  | wordEndHalf
  deriving DecidableEq, Repr

inductive Shorthand where
  | digit
  | space
  | word
  deriving DecidableEq, Repr

inductive ClassName where
  | alnum
  | alpha
  | ascii
  | blank
  | cntrl
  | digit
  | graph
  | lower
  | print
  | punct
  | space
  | upper
  | word
  | xdigit
  deriving DecidableEq, Repr

def ClassName.ofText? : String → Option ClassName
  | "alnum" => some alnum
  | "alpha" => some alpha
  | "ascii" => some ascii
  | "blank" => some blank
  | "cntrl" => some cntrl
  | "digit" => some digit
  | "graph" => some graph
  | "lower" => some lower
  | "print" => some print
  | "punct" => some punct
  | "space" => some space
  | "upper" => some upper
  | "word" => some word
  | "xdigit" => some xdigit
  | _ => none

inductive Combination where
  | intersection
  | difference
  | symmetricDifference
  deriving DecidableEq, Repr

inductive ClassTree where
  | empty (span : Span)
  | literal (l : Literal)
  | range (span : Span) (first last : Literal)
  | named (span : Span) (negated : Bool) (name : ClassName)
  | shorthand (span : Span) (negated : Bool) (s : Shorthand)
  | property (span : Span) (name : String)
  | bracketed (span : Span) (negated : Bool) (content : ClassTree)
  | union (span : Span) (items : List ClassTree)
  | combined (span : Span) (how : Combination) (left right : ClassTree)
  deriving Repr

namespace ClassTree

def span : ClassTree → Span
  | empty s | range s .. | named s .. | shorthand s .. | property s .. | bracketed s ..
  | union s .. | combined s .. => s
  | literal l => l.span

/-- Items that stand side by side, in their order; `start` is where the first would stand. -/
def ofItems (start : Nat) (items : List ClassTree) : ClassTree :=
  match items with
  | [] => empty ⟨start, start⟩
  | [item] => item
  | first :: others => union ⟨first.span.start, (others.getLastD first).span.stop⟩ items

end ClassTree

inductive Tree where
  | empty (span : Span)
  /-- Flags switched from here to the end of the group. -/
  | switch (span : Span) (changes : Changes)
  | literal (l : Literal)
  | dot (span : Span)
  | assertion (span : Span) (a : Assertion)
  | characters (c : ClassTree)
  /-- Takes as much as it can if it is written `greedy`, or else as little as it can. -/
  | repetition (span : Span) (min : Nat) (max : Option Nat) (greedy : Bool) (body : Tree)
  | group (span : Span) (capturing : Bool) (changes : Changes) (body : Tree)
  | sequence (span : Span) (parts : List Tree)
  | alternatives (span : Span) (branches : List Tree)
  deriving Repr

namespace Tree

def span : Tree → Span
  | empty s | switch s .. | dot s | assertion s .. | repetition s .. | group s .. | sequence s ..
  | alternatives s .. => s
  | literal l => l.span
  | characters c => c.span

def ofParts (span : Span) : List Tree → Tree
  | [] => empty span
  | [part] => part
  | parts => sequence span parts

/-- Can be repeated: neither nothing nor a switch of flags. -/
def isRepeatable : Tree → Bool
  | empty _ | switch .. => false
  | _ => true

end Tree

end TapeMachine.Pattern

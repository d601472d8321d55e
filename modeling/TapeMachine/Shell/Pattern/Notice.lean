import TapeMachine.Shell.Pattern.Flaw

/-! How a flaw of a pattern is shown: the pattern with the place marked below it, then what is wrong. A
pattern of several lines has its lines numbered and stands between two rules; a stretch that goes over
the end of a line is told by its lines and columns instead of being marked. -/
namespace TapeMachine.Pattern

/-- A place in a text of several lines; lines and columns are counted from 1. -/
structure Place where
  line : Nat
  column : Nat
  deriving DecidableEq, Repr

def Place.next (p : Place) (c : Char) : Place :=
  if c = '\n' then ⟨p.line + 1, 1⟩ else ⟨p.line, p.column + 1⟩

def placeOf (pattern : List Char) (offset : Nat) : Place :=
  (pattern.take offset).foldl Place.next ⟨1, 1⟩

/-- The first and the last place of a stretch; the last is the place after it. -/
structure Stretch where
  first : Place
  last : Place
  deriving DecidableEq, Repr

def Span.stretch (pattern : List Char) (s : Span) : Stretch :=
  ⟨placeOf pattern s.start, placeOf pattern s.stop⟩

namespace Stretch

def inOneLine (s : Stretch) : Bool :=
  s.first.line == s.last.line

def description (s : Stretch) : String :=
  s!"on line {s.first.line} (column {s.first.column}) through line {s.last.line} " ++
    s!"(column {s.last.column - 1})"

/-- Marks for stretches of one line from left to right, `column` being the next one to be written. An
empty stretch gets one mark. -/
def marks (column : Nat) : List Stretch → String
  | [] => ""
  | s :: rest =>
    let width := max 1 (s.last.column - s.first.column)
    "".pushn ' ' (s.first.column - column) ++ "".pushn '^' width ++
      marks (max column s.first.column + width) rest

end Stretch

/-- The lines of a text. An end of line is a line feed, or a carriage return and a line feed; after the
last end of line there is no further line if nothing follows. -/
def linesOf (text : String) : List String :=
  let pieces := text.splitOn "\n"
  let ended := pieces.dropLast.map fun piece =>
    if piece.toList.getLast? = some '\r' then String.ofList piece.toList.dropLast else piece
  let last := pieces.getLastD ""
  if last.isEmpty then ended else ended ++ [last]

def padLeft (width : Nat) (text : String) : String :=
  "".pushn ' ' (width - text.length) ++ text

namespace Flaw

def spans (f : Flaw) : List Span :=
  match f.earlier with
  | none => [f.span]
  | some e => if e.start ≤ f.span.start then [e, f.span] else [f.span, e]

/-- The lines of the pattern, each after its number if they are numbered, with marks below. -/
def marked (f : Flaw) (text : String) : String :=
  let lines := linesOf text
  let stretches := f.spans.map (·.stretch text.toList)
  let severalLines := text.contains '\n'
  let count := if text.endsWith "\n" then lines.length + 1 else lines.length
  let width := (toString count).length
  let margin (i : Nat) := if severalLines then padLeft width (toString (i + 1)) ++ ": " else "    "
  String.join (lines.zipIdx.map fun (line, i) =>
    let here := stretches.filter fun s => s.inOneLine && s.first.line == i + 1
    margin i ++ line ++ "\n" ++
      if here.isEmpty then ""
      else "".pushn ' ' (margin i).length ++ Stretch.marks 1 here ++ "\n")

def notice (f : Flaw) (text : String) : String :=
  let message := "error: " ++ f.mistake.message
  if text.contains '\n' then
    let rule := "".pushn '~' 79 ++ "\n"
    let long := (f.spans.map (·.stretch text.toList)).filter (!·.inOneLine)
    "regex parse error:\n" ++ rule ++ f.marked text ++ rule ++
      String.join (long.map fun s => s.description ++ "\n") ++ message
  else "regex parse error:\n" ++ f.marked text ++ message

end Flaw

end TapeMachine.Pattern

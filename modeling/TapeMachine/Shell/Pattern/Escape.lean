import TapeMachine.Shell.Pattern.Tree
import TapeMachine.Shell.Pattern.Cursor

/-! Escapes: a backslash and what belongs to it. -/
namespace TapeMachine.Pattern

inductive Piece where
  | literal (l : Literal)
  | assertion (span : Span) (a : Assertion)
  | characters (c : ClassTree)

namespace Piece

def span : Piece → Span
  | literal l => l.span
  | assertion s _ => s
  | characters c => c.span

def tree : Piece → Tree
  | literal l => .literal l
  | assertion s a => .assertion s a
  | characters c => .characters c

end Piece

def isHexDigit (c : Char) : Bool :=
  c.isDigit || ('a' ≤ c && c ≤ 'f') || ('A' ≤ c && c ≤ 'F')

def hexDigitValue (c : Char) : Nat :=
  if c.isDigit then c.toNat - '0'.toNat
  else if 'a' ≤ c then c.toNat - 'a'.toNat + 10
  else c.toNat - 'A'.toNat + 10

/-- The character with a code; surrogates and what is beyond the last code point are none. -/
def charOfCode? (code : Nat) : Option Char :=
  if code.isValidChar then some (Char.ofNat code) else none

def charOfDigits? (digits : List Char) : Option Char :=
  charOfCode? (digits.foldl (fun value d => 16 * value + hexDigitValue d) 0)

def isSign (c : Char) : Bool :=
  "\\.+*?()|[]\x7b\x7d^$#&-~".toList.contains c

/-- A backslash may stand before any sign and before any other character of ASCII but letters, digits
and angles, and does not change what it means. -/
def isEscapable (c : Char) : Bool :=
  isSign c || c.toNat < 128 && !c.isAlphanum && c != '<' && c != '>'

def controlOf? : Char → Option Char
  | 'a' => some '\x07'
  | 'f' => some '\x0c'
  | 't' => some '\t'
  | 'n' => some '\n'
  | 'r' => some '\r'
  | 'v' => some '\x0b'
  | _ => none

def shorthandOf? : Char → Option (Bool × Shorthand)
  | 'd' => some (false, .digit)
  | 's' => some (false, .space)
  | 'w' => some (false, .word)
  | 'D' => some (true, .digit)
  | 'S' => some (true, .space)
  | 'W' => some (true, .word)
  | _ => none

def assertionOf? : Char → Option Assertion
  | 'A' => some .textStart
  | 'z' => some .textEnd
  | 'b' => some .boundary
  | 'B' => some .noBoundary
  | '<' => some .wordStart
  | '>' => some .wordEnd
  | _ => none

def boundaryOf? : String → Option Assertion
  | "start" => some .wordStart
  | "end" => some .wordEnd
  | "start-half" => some .wordStartHalf
  | "end-half" => some .wordEndHalf
  | _ => none

namespace Reading

def hexDigits : Nat → Reading (List Char)
  | 0 => return []
  | count + 1 => do
    match ← current? with
    | none => fail .escapeEnd (← spanHere)
    | some c =>
      if isHexDigit c then
        let _ ← nextSolid?
        return c :: (← hexDigits count)
      else fail .codeDigit (← spanCurrent)

/-- A character by so many digits of its code; `start` is where the escape begins. -/
def fixedCode (start count : Nat) : Reading Literal := do
  let first ← offset
  let digits ← hexDigits count
  match charOfDigits? digits with
  | some c => return ⟨← spanFrom start, c, count == 2⟩
  | none => fail .codeInvalid (← spanFrom first)

def bracedCode (start : Nat) : Reading Literal := do
  let brace ← offset
  let _ ← nextSolid?
  let digits ← takeWhile isHexDigit
  match ← current? with
  | none => fail .escapeEnd (← spanFrom brace)
  | some '}' =>
    let stop ← offset
    let _ ← nextSolid?
    if digits.isEmpty then fail .codeEmpty (← spanFrom brace)
    else
      match charOfDigits? digits with
      | some c => return ⟨← spanFrom start, c, false⟩
      | none => fail .codeInvalid ⟨brace + 1, stop⟩
  | some _ => fail .codeDigit (← spanCurrent)

def code (start count : Nat) : Reading Literal := do
  match ← nextSolid? with
  | none => fail .escapeEnd (← spanHere)
  | some '{' => bracedCode start
  | some _ => fixedCode start count

/-- A set of characters by a property, which has a name of one letter or a name between braces. -/
def property (start : Nat) : Reading ClassTree := do
  match ← nextSolid? with
  | none => fail .escapeEnd (← spanHere)
  | some '{' =>
    let _ ← nextSolid?
    let name ← takeWhile (· != '}')
    if (← current?).isNone then fail .escapeEnd (← spanHere)
    let _ ← next?
    return .property (← spanFrom start) (String.ofList name)
  | some c =>
    if c = '\\' then fail .propertySign (← spanCurrent)
    let _ ← nextSolid?
    return .property (← spanFrom start) c.toString

def isBoundaryLetter (c : Char) : Bool :=
  c.isAlpha || c = '-'

/-- The name of a boundary between braces, where a boundary may be followed by one. What is between the
braces is no name if it does not begin like one; then nothing is read. -/
def boundaryName? (start : Nat) : Reading (Option Assertion) := do
  let saved ← get
  let brace ← offset
  match ← nextSolid? with
  | none => fail .boundaryEnd (← spanFrom start)
  | some c =>
    if isBoundaryLetter c then
      let first ← offset
      let name ← takeWhile isBoundaryLetter
      if (← current?) != some '}' then fail .boundaryUnclosed (← spanFrom brace)
      let span ← spanFrom first
      let _ ← next?
      match boundaryOf? (String.ofList name) with
      | some a => return some a
      | none => fail .boundaryUnknown span
    else
      set saved
      return none

def shortEscape (start : Nat) (c : Char) : Reading Piece := do
  let following ← next?
  let span ← spanFrom start
  if isEscapable c then return .literal ⟨span, c, false⟩
  else if let some control := controlOf? c then return .literal ⟨span, control, false⟩
  else if let some a := assertionOf? c then
    if a = .boundary && following = some '{' then
      match ← boundaryName? start with
      | some named => return .assertion (← spanFrom start) named
      | none => return .assertion span a
    else return .assertion span a
  else fail .escapeUnknown span

def escape : Reading Piece := do
  let start ← offset
  match ← next? with
  | none => fail .escapeEnd (← spanFrom start)
  | some c =>
    if c.isDigit then fail .backReference ⟨start, (← spanCurrent).stop⟩
    else if let some (negated, s) := shorthandOf? c then
      let _ ← next?
      return .characters (.shorthand (← spanFrom start) negated s)
    else
      match c with
      | 'x' => return .literal (← code start 2)
      | 'u' => return .literal (← code start 4)
      | 'U' => return .literal (← code start 8)
      | 'p' | 'P' => return .characters (← property start)
      | _ => shortEscape start c

end Reading

end TapeMachine.Pattern

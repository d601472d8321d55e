import TapeMachine.Text.Blank

/-! The instructions of a tape program. Blank characters vanish; every other character is an
instruction, an undefined one if it is none of the eight commands. Brackets are not matched here: a
text always has tokens. -/
namespace TapeMachine

inductive Token where
  | increment
  | decrement
  | right
  | left
  | input
  | output
  | loopStart
  | loopEnd
  | undefined (c : Char)
  deriving DecidableEq, Repr

namespace Token

def ofChar (c : Char) : Token :=
  match c with
  | '+' => increment
  | '-' => decrement
  | '>' => right
  | '<' => left
  | ',' => input
  | '.' => output
  | '[' => loopStart
  | ']' => loopEnd
  | c => undefined c

def toChar : Token → Char
  | increment => '+'
  | decrement => '-'
  | right => '>'
  | left => '<'
  | input => ','
  | output => '.'
  | loopStart => '['
  | loopEnd => ']'
  | undefined c => c

theorem toChar_ofChar (c : Char) : (ofChar c).toChar = c := by
  unfold ofChar
  split <;> rfl

end Token

def tokenize (text : String) : List Token :=
  (text.toList.filter fun c => !isBlank c).map Token.ofChar

theorem tokenize_append (first second : String) :
    tokenize (first ++ second) = tokenize first ++ tokenize second := by
  simp [tokenize]

/-- The characters of the tokens are those of the text, less the blanks. -/
theorem tokenize_chars (text : String) :
    (tokenize text).map Token.toChar = text.toList.filter fun c => !isBlank c := by
  have inverse : Token.toChar ∘ Token.ofChar = id := funext Token.toChar_ofChar
  simp [tokenize, inverse]

end TapeMachine

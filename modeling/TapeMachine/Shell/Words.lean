import TapeMachine.Text.Decimal
import TapeMachine.Console.Arguments

/-! The command line, read from left to right. Reading ends early where a word cannot stand, and where
the version or the help is asked for; what stands later is then not looked at. That the pieces fit
together is asked only at the end. -/
namespace TapeMachine

inductive Parameter where
  | eval
  | input
  | inputFile
  | cellBits
  | stepLimit
  | showPartial
  | verbose
  | version
  | help
  deriving DecidableEq, Repr

namespace Parameter

def takesValue : Parameter → Bool
  | eval | input | inputFile | cellBits | stepLimit => true
  | showPartial | verbose | version | help => false

def ofLongName? : String → Option Parameter
  | "eval" => some eval
  | "input" => some input
  | "input-file" => some inputFile
  | "cell-bits" => some cellBits
  | "step-limit" => some stepLimit
  | "show-partial" => some showPartial
  | "verbose" => some verbose
  | "version" => some version
  | "help" => some help
  | _ => none

def ofLetter? : Char → Option Parameter
  | 'e' => some eval
  | 'i' => some input
  | 'v' => some verbose
  | 'V' => some version
  | 'h' => some help
  | _ => none

end Parameter

inductive EarlyEnd where
  | refused
  | version
  | help
  deriving DecidableEq, Repr

structure Draft where
  program : Option String := none
  eval : Option String := none
  input : Option String := none
  inputFile : Option String := none
  cellBits : Option Nat := none
  stepLimit : Option UInt64 := none
  showPartial : Bool := false
  verbose : Bool := false
  deriving DecidableEq, Repr

/-- A path must not be empty. -/
def path? (text : String) : Option String :=
  if text.isEmpty then none else some text

/-- A width is read as a 32-bit number; whether cells may have it is asked later. -/
def cellBits? (text : String) : Option Nat :=
  match Decimal.integer? text with
  | some n => if 0 ≤ n ∧ n < UInt32.size then some n.toNat else none
  | none => none

/-- A limit is read as a 64-bit number, without a minus sign. -/
def stepLimit? (text : String) : Option UInt64 :=
  match Decimal.natural? text with
  | some n => if n < UInt64.size then some (UInt64.ofNat n) else none
  | none => none

/-- A thing is said at most once, and only by a text that can be read. -/
def sayOnce {α : Type} (earlier said : Option α) : Except EarlyEnd (Option α) :=
  match earlier, said with
  | none, some value => .ok (some value)
  | _, _ => .error .refused

def raiseOnce (earlier : Bool) : Except EarlyEnd Bool :=
  if earlier then .error .refused else .ok true

namespace Draft

def place (d : Draft) (text : String) : Except EarlyEnd Draft := do
  return { d with program := ← sayOnce d.program (path? text) }

def give (d : Draft) (parameter : Parameter) (value : String) : Except EarlyEnd Draft :=
  match parameter with
  | .eval => return { d with eval := ← sayOnce d.eval (some value) }
  | .input => return { d with input := ← sayOnce d.input (some value) }
  | .inputFile => return { d with inputFile := ← sayOnce d.inputFile (path? value) }
  | .cellBits => return { d with cellBits := ← sayOnce d.cellBits (cellBits? value) }
  | .stepLimit => return { d with stepLimit := ← sayOnce d.stepLimit (stepLimit? value) }
  | _ => .error .refused

def raise (d : Draft) (parameter : Parameter) : Except EarlyEnd Draft :=
  match parameter with
  | .showPartial => return { d with showPartial := ← raiseOnce d.showPartial }
  | .verbose => return { d with verbose := ← raiseOnce d.verbose }
  | .version => .error .version
  | .help => .error .help
  | _ => .error .refused

/-- Reads `--name` or `--name=value` less its dashes. A parameter that still lacks its value comes
back beside the draft. -/
def readLong (d : Draft) (word : List Char) : Except EarlyEnd (Draft × Option Parameter) :=
  let name := word.takeWhile (· != '=')
  match Parameter.ofLongName? (String.ofList name), word.drop name.length with
  | none, _ => .error .refused
  | some parameter, [] =>
    if parameter.takesValue then .ok (d, some parameter)
    else return (← d.raise parameter, none)
  | some parameter, _ :: value => return (← d.give parameter (String.ofList value), none)

/-- Reads a word of letters less its dash. The first letter that takes a value takes the rest of the
word, without an equals sign in front; if nothing is left it takes the next word. -/
def readLetters (d : Draft) : List Char → Except EarlyEnd (Draft × Option Parameter)
  | [] => .ok (d, none)
  | letter :: rest =>
    match Parameter.ofLetter? letter with
    | none => .error .refused
    | some parameter =>
      if parameter.takesValue then
        match rest with
        | [] => .ok (d, some parameter)
        | '=' :: value => return (← d.give parameter (String.ofList value), none)
        | value => return (← d.give parameter (String.ofList value), none)
      else do (← d.raise parameter).readLetters rest

/-- A word of its own may be a value unless it looks like a parameter. -/
def looksLikeParameter (word : String) : Bool :=
  match word.toList with
  | '-' :: _ :: _ => true
  | _ => false

def readWord (d : Draft) (word : String) : Except EarlyEnd (Draft × Option Parameter) :=
  match word.toList with
  | '-' :: '-' :: long => d.readLong long
  | '-' :: letter :: letters => d.readLetters (letter :: letters)
  | _ => return (← d.place word, none)

/-- Reads the words; `lacking` is the parameter that the next word must be the value of. After `--`
all words are files. -/
def readWords (d : Draft) (lacking : Option Parameter) : List String → Except EarlyEnd Draft
  | [] => if lacking.isSome then .error .refused else .ok d
  | word :: rest =>
    match lacking with
    | some parameter =>
      if looksLikeParameter word then .error .refused
      else do (← d.give parameter word).readWords none rest
    | none =>
      if word = "--" then rest.foldlM place d
      else do
        let (d, lacking) ← d.readWord word
        d.readWords lacking rest

/-- The program is said in exactly one way, the input in at most one. -/
def complete (d : Draft) : Except EarlyEnd Arguments :=
  let standard : Settings := {}
  if d.program.isSome = d.eval.isSome then .error .refused
  else if d.input.isSome ∧ d.inputFile.isSome then .error .refused
  else .ok { d with cellBits := d.cellBits.getD standard.cellBits }

end Draft

def Arguments.ofWords (words : List String) : Except EarlyEnd Arguments := do
  let draft : Draft := {}
  (← draft.readWords none words).complete

def versionText : String :=
  "tapevm 0.1.0\n"

def helpText : String :=
  "Interpreter for an eight-instruction tape language\n\n" ++
  "Usage: tapevm [OPTIONS] [PROGRAM]\n\n" ++
  "Arguments:\n" ++
  "  [PROGRAM]  Program file to run\n\n" ++
  "Options:\n" ++
  "  -e, --eval <EVAL>              Run the given program text instead of a file\n" ++
  "  -i, --input <INPUT>            Input text consumed by `,`\n" ++
  "      --input-file <INPUT_FILE>  Read the input text from a file\n" ++
  "      --cell-bits <CELL_BITS>    Width of a cell in bits [default: 8]\n" ++
  "      --step-limit <STEP_LIMIT>  Stop the run after this many steps\n" ++
  "      --show-partial             Print the output produced before a failure\n" ++
  "  -v, --verbose                  Log the run to stderr\n" ++
  "  -h, --help                     Print help\n" ++
  "  -V, --version                  Print version\n"

end TapeMachine

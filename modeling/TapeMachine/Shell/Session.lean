import TapeMachine.Console.Reply
import TapeMachine.Shell.Selection
import TapeMachine.Shell.Words

/-! The surroundings of the program where it is called from a command line: which words are which arguments,
and which events are shown by a specification of the logger. These are the customs of libraries that the
program uses, and the program is there without them; nothing that is proved of it rests on them. -/
namespace TapeMachine

variable {m : Type → Type} [Monad m]

/-- The specification comes before what the arguments say. What cannot be followed is complained of. -/
def Arguments.surroundings (a : Arguments) (read : String → m (Except String String))
    (specification : Option String) : Surroundings m :=
  let standard := Selection.uniform (some a.level)
  let (selection, complaints) := match specification with
    | some text => standard.follow text
    | none => (standard, [])
  { read
    shows := selection.shows
    preamble := String.join (complaints.map fun c => "warning: " ++ c ++ ", ignoring it\n") }

/-- Reads the words and fetches what they name; a reply comes instead if there is nothing to run. -/
def prepareWords (read : String → m (Except String String)) (words : List String)
    (specification : Option String) : m (Except Reply Job) :=
  match Arguments.ofWords words with
  | .error .refused => return .error .usage
  | .error .version => return .error (.done 0 versionText "")
  | .error .help => return .error (.done 0 helpText "")
  | .ok arguments => (arguments.surroundings read specification).prepare arguments

end TapeMachine

import TapeMachine.Shell.Directory
import TapeMachine.Shell.Session

/-! The program itself: it reads the files, lends the machine as much time as the run takes, prints the
reply and ends with its status. -/
namespace TapeMachine.Main

/-- Codes of the system come with either sign. -/
def hasCode (code expected : UInt32) : Bool :=
  code = expected || code = 0 - expected

def readErrorOf : IO.Error → ReadError
  | .noFileOrDirectory .. => .notFound
  | .inappropriateType _ code _ => if hasCode code 21 then .isDirectory else .notDirectory
  | .invalidArgument _ code details =>
    if hasCode code 36 then .nameTooLong else .other details
  | .permissionDenied .. => .other "Permission denied (os error 13)"
  | e => .other (toString e)

def readFile (path : String) : IO (Except String String) := do
  try
    return (readText (← IO.FS.readBinFile path)).mapError ReadError.message
  catch e =>
    return .error (readErrorOf e).message

/-- Raises the bound until there is a result. -/
partial def settle {α : Type} (bounded : Nat → Option α) (fuel : Nat) : IO α :=
  match bounded fuel with
  | some result => return result
  | none => settle bounded (4 * fuel)

def print : Reply → IO UInt32
  | .usage => do
    (← IO.getStderr).putStr (errorLine "invalid arguments" ++ "\nFor more information, try '--help'.\n")
    return 2
  | .done status stdout stderr => do
    (← IO.getStdout).putStr stdout
    (← IO.getStdout).flush
    (← IO.getStderr).putStr stderr
    return UInt32.ofNat status

end TapeMachine.Main

def main (words : List String) : IO UInt32 := do
  match ← TapeMachine.prepareWords TapeMachine.Main.readFile words (← IO.getEnv "RUST_LOG") with
  | .error reply => TapeMachine.Main.print reply
  | .ok job => TapeMachine.Main.print (← TapeMachine.Main.settle job.reply 4096)

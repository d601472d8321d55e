/-! Reading texts by path. A directory here is flat: it holds files and no other directory. Of what lies
outside it only this is known: there are directories above it, the topmost of which is its own parent
and holds the usual directories, and the device that is always empty is among the devices. -/
namespace TapeMachine

inductive ReadError where
  | notFound
  | notDirectory
  | isDirectory
  | nameTooLong
  | notText
  | other (description : String)
  deriving DecidableEq, Repr

def ReadError.message : ReadError → String
  | notFound => "No such file or directory (os error 2)"
  | notDirectory => "Not a directory (os error 20)"
  | isDirectory => "Is a directory (os error 21)"
  | nameTooLong => "File name too long (os error 36)"
  | notText => "stream did not contain valid UTF-8"
  | other description => description

def readText (bytes : ByteArray) : Except ReadError String :=
  match String.fromUTF8? bytes with
  | some text => .ok text
  | none => .error .notText

structure Directory where
  files : List (String × ByteArray)

namespace Directory

inductive Place where
  /-- The directory that is given. -/
  | given
  /-- The topmost directory. -/
  | top
  /-- One of the usual directories in the topmost one. -/
  | usual (name : String)
  /-- Some directory above the given one. -/
  | above
  deriving DecidableEq, Repr

inductive Entry where
  | directory (place : Place)
  | file (content : ByteArray)

def usualDirectories : List String :=
  ["bin", "boot", "dev", "etc", "home", "lib", "lib64", "media", "mnt", "opt", "proc", "root", "run",
    "sbin", "srv", "sys", "tmp", "usr", "var"]

def find? (d : Directory) (name : String) : Option ByteArray :=
  (d.files.find? fun file => file.1 == name).map Prod.snd

def parent : Place → Place
  | .top | .usual _ => .top
  | .given | .above => .above

def entry? (d : Directory) (place : Place) (name : String) : Option Entry :=
  if name = ".." then some (.directory (parent place))
  else
    match place with
    | .given => (d.find? name).map .file
    | .top => if usualDirectories.contains name then some (.directory (.usual name)) else none
    | .usual directory => if directory = "dev" ∧ name = "null" then some (.file .empty) else none
    | .above => none

/-- Follows the parts of a path from a place, `asDirectory` telling that the last part must be a
directory. A part is refused for its length before it is looked for. -/
def walk (d : Directory) (asDirectory : Bool) (place : Place) :
    List String → Except ReadError String
  | [] => .error .isDirectory
  | name :: rest =>
    if 255 < name.utf8ByteSize then .error .nameTooLong
    else
      match d.entry? place name with
      | none => .error .notFound
      | some (.directory next) => d.walk asDirectory next rest
      | some (.file content) =>
        if asDirectory || !rest.isEmpty then .error .notDirectory else readText content

def read (d : Directory) (path : String) : Except ReadError String :=
  let pieces := path.splitOn "/"
  let parts := pieces.filter fun piece => piece != "" && piece != "."
  if path.isEmpty then .error .notFound
  else if 4096 ≤ path.utf8ByteSize then .error .nameTooLong
  else
    let last := pieces.getLastD ""
    let start := if path.toList.head? = some '/' then Place.top else .given
    d.walk (last == "" || last == ".") start parts

end Directory

end TapeMachine

/-!
# Files

The files that a program can see, by the paths that lead to them, absolute or not.  What a path leads to is left to
the machine: the working directory, links, and who may read what.  It stays the same while the program runs.
-/

namespace EnergyGateway

/-- Why a file cannot be read. -/
inductive FileError where
  | notFound
  | denied
  | notDirectory
  | isDirectory
  | nameTooLong
  | nulInName
  /-- The bytes of the file are no text. -/
  | notText
  /-- Anything else that the system reports. -/
  | system (code : Nat) (reason : String)
  deriving DecidableEq, Repr

def FileError.message : FileError → String
  | .notFound => "No such file or directory (os error 2)"
  | .denied => "Permission denied (os error 13)"
  | .notDirectory => "Not a directory (os error 20)"
  | .isDirectory => "Is a directory (os error 21)"
  | .nameTooLong => "File name too long (os error 36)"
  | .nulInName => "file name contained an unexpected NUL byte"
  | .notText => "stream did not contain valid UTF-8"
  | .system code reason => s!"{reason} (os error {code})"

/-- What paths lead to. -/
structure Files where
  /-- An error if a path leads nowhere; otherwise what reading gives there, which may be an error as well. -/
  find : String → Except FileError (Except FileError ByteArray)

namespace Files

/-- Whether a path leads anywhere. -/
def contains (files : Files) (path : String) : Bool := (files.find path).isOk

/-- The contents of the file at a path. -/
def read (files : Files) (path : String) : Except FileError ByteArray := do
  let contents ← files.find path
  contents

/-- The contents of the file at a path, as text. -/
def text (files : Files) (path : String) : Except FileError String := do
  match String.fromUTF8? (← files.read path) with
  | some text => return text
  | none => throw .notText

/-! ### Paths -/

/-- Whether a path starts at the root. -/
def isAbsolute (path : String) : Bool := path.toList.head? == some '/'

/-- The parts of a path between slashes, without those that stay where they are. -/
def parts (path : String) : List String :=
  ((path.toList.splitOn '/').map String.ofList).filter fun part => !part.isEmpty && part != "."

/-- The path of a name in a directory. -/
def join (directory name : String) : String :=
  match directory.toList.getLast? with
  | none | some '/' => directory ++ name
  | some _ => directory ++ "/" ++ name

/-- The name of the file at the end of a path, none if the path goes up at last. -/
def name? (path : String) : Option String := (parts path).getLast?.filter (· != "..")

/-- The extension of a file: what follows the last dot of its name, unless the name starts with it. -/
def extension? (path : String) : Option String := do
  let name ← name? path
  let reversed := name.toList.reverse
  let stem := (reversed.dropWhile (· != '.')).drop 1
  if stem.isEmpty then none else some (String.ofList (reversed.takeWhile (· != '.')).reverse)

end Files

end EnergyGateway

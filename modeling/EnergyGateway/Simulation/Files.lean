import EnergyGateway.Files

/-!
# Simulated files

A tree of files for rehearsals.  A path is followed part by part, from the root if it is absolute and otherwise from
the working directory: parts of one dot and empty parts stay where they are, two dots go up, and at the root
they stay where they are as well.
-/

namespace EnergyGateway

/-- Files by path, with what reading gives.  The directories on their paths are there as well. -/
structure SimulatedFiles where
  entries : List (String × Except FileError ByteArray)
  workingDirectory : String := "/work"

namespace SimulatedFiles

/-- The longest name of a file and the longest path, in bytes. -/
def maxName : Nat := 255
def maxPath : Nat := 4095

/-- What a path leads to. -/
inductive Place where
  | file (contents : Except FileError ByteArray)
  | directory (path : List String)

variable (files : SimulatedFiles)

/-- The directory where a path starts. -/
def start (path : String) : List String :=
  if Files.isAbsolute path then [] else Files.parts files.workingDirectory

/-- The parts of a path from the root on. -/
def fromRoot (path : String) : List String := files.start path ++ Files.parts path

/-- The place of a path from the root on. -/
def place (path : List String) : Except FileError Place :=
  match files.entries.find? fun entry => files.fromRoot entry.1 == path with
  | some entry => .ok (.file entry.2)
  | none =>
    let known := Files.parts files.workingDirectory :: files.entries.map fun entry => files.fromRoot entry.1
    if known.any path.isPrefixOf then .ok (.directory path) else .error .notFound

/-- Follow the parts of a path.  Every directory refuses names that are too long, also one without files. -/
def follow : Place → List String → Except FileError Place
  | place, [] => .ok place
  | .file _, _ :: _ => .error .notDirectory
  | .directory path, part :: rest =>
    if part = ".." then follow (.directory path.dropLast) rest
    else if maxName < part.utf8ByteSize then .error .nameTooLong
    else
      match files.place (path ++ [part]) with
      | .ok place => follow place rest
      | .error e => .error e

/-- Whether a path can only lead to a directory. -/
def namesDirectory (path : String) : Bool :=
  match (path.toList.reverse.takeWhile (· != '/')).reverse with
  | [] => true
  | last => last == ['.'] || last == ['.', '.']

def find (path : String) : Except FileError (Except FileError ByteArray) := do
  if path.toList.contains '\x00' then throw .nulInName
  if path.isEmpty then throw .notFound
  if maxPath < path.utf8ByteSize then throw .nameTooLong
  match ← files.follow (.directory (files.start path)) (Files.parts path) with
  | .file contents => if namesDirectory path then throw .notDirectory else return contents
  | .directory _ => return .error .isDirectory

/-- The files as a program sees them. -/
def toFiles : Files := ⟨files.find⟩

/-- Files with these texts. -/
def ofTexts (texts : List (String × String)) : SimulatedFiles where
  entries := texts.map fun (path, text) => (path, .ok text.toUTF8)

end SimulatedFiles

end EnergyGateway

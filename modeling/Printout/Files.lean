import Printout.Failure

/-!
# Files

The files that a run can reach, seen from its working directory. A path is walked name by name, and
every name, the empty one behind a last slash included, asks for a directory to look it up in. Above
the working directory nothing is known but the directories that lead to it.

Files can also be listed. Making a listed file makes every directory on the way to it, so `ofLists`
follows a listed path by its names alone (`trail`, `destination`).
-/

set_option autoImplicit false

namespace Printout

/-- What a name can stand for. -/
inductive Entry where
  | directory
  | file (content : ByteArray)

/-- Files are told apart by their bytes. -/
instance : DecidableEq Entry
  | .directory, .directory => isTrue rfl
  | .file content, .file content' =>
    match ByteArray.instDecidableEq content content' with
    | isTrue h => isTrue (h ▸ rfl)
    | isFalse h => isFalse fun heq => h (Entry.file.inj heq)
  | .directory, .file _ => isFalse nofun
  | .file _, .directory => isFalse nofun

/-- The entries below the working directory: `entry?` finds each by the names that lead to it. -/
structure Files where
  entry? : List String → Option Entry

/-- A place that a walk can come to. -/
inductive Place where
  /-- The entry that `names` lead to from the working directory. -/
  | below (names : List String)
  /-- A directory above the working directory. -/
  | above
deriving Repr, DecidableEq

namespace Files

/-! ## Walks -/

/-- What `files` have at a place. The working directory is a directory whatever `entry?` says. -/
def entryAt? (files : Files) : Place → Option Entry
  | .below [] => some .directory
  | .below names => files.entry? names
  | .above => some .directory

/-- The directory that holds a place, for the name `..`. -/
def parent : Place → Place
  | .below [] => .above
  | .below names => .below names.dropLast
  | .above => .above

/-- The place that a name leads to from a place. The empty name and `.` stay where they are, and
`..` leads up. -/
def enter (place : Place) (name : String) : Place :=
  if name = "" ∨ name = "." then place
  else if name = ".." then parent place
  else
    match place with
    | .below names => .below (names ++ [name])
    | .above => .above

/-- The greatest number of bytes in a name. -/
def maxName : Nat := 255

/-- The least number of bytes that no path may have. -/
def pathBound : Nat := 4096

/-- One step of a walk: looks `name` up in the directory at `place`. -/
def step (files : Files) (place : Place) (name : String) : Except SystemError Place :=
  -- Only a directory can be asked for a name, be the name too long or unknown.
  if files.entryAt? place ≠ some .directory then .error .notDirectory
  else if name = "" ∨ name = "." ∨ name = ".." then .ok (enter place name)
  else if maxName < name.utf8ByteSize then .error .nameTooLong
  else if place = .above ∨ files.entryAt? (enter place name) = none then .error .noEntry
  else .ok (enter place name)

/-- The names on `path` between its slashes, in order. -/
def names (path : String) : List String := (path.toList.splitOn '/').map String.ofList

/-- Whether `path` says itself where it starts. -/
def isAbsolute (path : String) : Bool := path.toList.head? = some '/'

/-- Where the walk along `path` starts. -/
def start (path : String) : Place := if isAbsolute path then .above else .below []

/-- The path that leads from the working directory to where `path` leads from `directory`. The empty
`path` leads to `directory` itself, and an absolute one does not depend on it. -/
def join (directory path : String) : String :=
  if isAbsolute path then path else directory ++ "/" ++ path

/-- Where the walk along `path` ends, one `step` for each of its `names`. -/
def walk (files : Files) (path : String) : Except SystemError Place :=
  (names path).foldlM files.step (start path)

/-- The entry that `path` leads to. -/
def find (files : Files) (path : String) : Except SystemError Entry :=
  if path = "" then .error .noEntry
  else if pathBound ≤ path.utf8ByteSize then .error .nameTooLong
  else
    match files.walk path with
    | .error e => .error e
    | .ok place =>
      match files.entryAt? place with
      | some entry => .ok entry
      | none => .error .noEntry

/-! ## Reading -/

/-- The text of a file with the bytes `content`. They must be UTF-8 from the first to the last, and
nothing is added or taken away. -/
def textOf (content : ByteArray) : Except ReadError String :=
  match String.fromUTF8? content with
  | some text => .ok text
  | none => .error .notUtf8

/-- The text of the file that `path` leads to. -/
def read (files : Files) (path : String) : Except ReadError String :=
  if '\x00' ∈ path.toList then .error .nulInPath
  else
    match files.find path with
    | .error e => .error (.system e)
    | .ok .directory => .error (.system .isDirectory)
    | .ok (.file content) => textOf content

/-! ## Listing files -/

/-- The places on the way along names from `place` on, the first and the last included. -/
def places (place : Place) : List String → List Place
  | [] => [place]
  | name :: rest => place :: places (enter place name) rest

/-- The places on the way along `path`. -/
def trail (path : String) : List Place := places (start path) (names path)

/-- The place at the end of `path`. -/
def destination (path : String) : Place := (names path).foldl enter (start path)

/-- The files of a list and the directories of another, with all directories on the way to them,
also those that a path leaves again through `..`. Of two files at one place the later counts. -/
def ofLists (directories : List String) (files : List (String × ByteArray)) : Files where
  entry? names :=
    match files.reverse.find? fun (path, _) => destination path = .below names with
    | some (_, content) => some (.file content)
    | none =>
      if (directories ++ files.map Prod.fst).any fun path => (trail path).contains (.below names)
      then some .directory
      else none

end Files

end Printout

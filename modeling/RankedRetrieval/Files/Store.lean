import RankedRetrieval.Files.Error
import RankedRetrieval.Files.Location
import RankedRetrieval.Table
import RankedRetrieval.Text.Line

/-!
# File stores

The files that a run reads and writes, as a value.

## Main Definitions

* `FileStore` — directories and files
* `FileStore.find` — the directory or file at a path
* `FileStore.read` — the bytes of a file
* `FileStore.create` — a store with an empty file at a path
* `FileStore.write` — a store in which a file begins with some bytes

## Design Notes

**A path is followed name by name.**  Every name but the last one has to be that of a directory,
so a path through a missing directory leads nowhere, even when it comes back out of it.

**A file can only be created in a directory that exists.**  Writing starts at the beginning of a
file and leaves what stands further on, so it replaces the file only after the file has been
created anew.
-/

namespace RankedRetrieval

/-- Directories and files. -/
structure FileStore where
  /-- The directories, without those that are always there. -/
  directories : List Location
  /-- The bytes of the files. -/
  files : Table Location (List UInt8)
  /-- The files that can be run as programs. -/
  programs : List Location
  deriving DecidableEq

namespace FileStore

/-- The store without files. -/
def empty : FileStore := ⟨[], ∅, []⟩

/-- Whether there is a directory at a location. -/
def hasDirectory (s : FileStore) (l : Location) : Bool :=
  l.isSystemDirectory || s.directories.contains l

/-- The bytes of the file at a location. -/
def fileAt? (s : FileStore) (l : Location) : Option (List UInt8) :=
  if l.isDevice then some [] else s.files.get? l

/-! ### Paths -/

/-- Why something is no directory. -/
def directoryError (s : FileStore) (l : Location) : FileError :=
  if (s.fileAt? l).isSome then .notDirectory else .missing

/-- The location that names lead to from a location. -/
def walk (s : FileStore) (l : Location) : List String → Except FileError Location
  | [] => .ok l
  | name :: rest =>
    if !s.hasDirectory l then .error (s.directoryError l)
    else if Location.longestName < name.utf8ByteSize then .error .nameTooLong
    else s.walk (l.enter name) rest

/-- Why a path can denote nothing. -/
def pathError? (path : String) : Option FileError :=
  if path.toList.contains '\x00' then some .unusablePath
  else if path.isEmpty then some .missing
  else if Location.longestPath < path.utf8ByteSize then some .nameTooLong
  else none

/-- The location that a path leads to. -/
def locate (s : FileStore) (path : String) : Except FileError Location :=
  match pathError? path with
  | some e => .error e
  | none => s.walk (Location.origin path) (Location.names path)

/-- What stands at a location. -/
inductive Entry where
  /-- A directory. -/
  | directory
  /-- A file with its bytes. -/
  | file (bytes : List UInt8)
  deriving DecidableEq

/-- What stands at a path. -/
def find (s : FileStore) (path : String) : Except FileError Entry :=
  match s.locate path with
  | .error e => .error e
  | .ok l =>
    if s.hasDirectory l then .ok .directory
    else
      match s.fileAt? l with
      | none => .error .missing
      | some bytes => if Location.endsInSlash path then .error .notDirectory else .ok (.file bytes)

/-- The bytes of the file at a path. -/
def read (s : FileStore) (path : String) : Except FileError (List UInt8) :=
  match s.find path with
  | .error e => .error e
  | .ok .directory => .error .isDirectory
  | .ok (.file bytes) => .ok bytes

/-- The location of a file that is there or that can be created at a path.  The last name of
the path is that of the file and not that of a directory. -/
def target (s : FileStore) (path : String) : Except FileError Location :=
  match pathError? path, (Location.names path).getLast? with
  | some e, _ => .error e
  | none, none => .error .isDirectory
  | none, some name =>
    match s.walk (Location.origin path) (Location.names path).dropLast with
    | .error e => .error e
    | .ok l =>
      if !s.hasDirectory l then .error (s.directoryError l)
      else if name = "." || name = ".." || Location.endsInSlash path then .error .isDirectory
      else if Location.longestName < name.utf8ByteSize then .error .nameTooLong
      else if s.hasDirectory (l ++ [name]) then .error .isDirectory
      else .ok (l ++ [name])

/-! ### Changes -/

/-- A store in which the bytes of the file at a location have changed; a device does not
change. -/
def update (s : FileStore) (l : Location) (change : List UInt8 → List UInt8) : FileStore :=
  if l.isDevice then s
  else { s with files := s.files.adjust l fun earlier => change (earlier.getD []) }

/-- A store with an empty file at a path. -/
def create (s : FileStore) (path : String) : Except FileError FileStore :=
  (s.target path).map fun l => s.update l fun _ => []

/-- A store in which the file at a path has changed; nothing changes when there can be no
file. -/
def change (s : FileStore) (path : String) (change : List UInt8 → List UInt8) : FileStore :=
  match s.target path with
  | .error _ => s
  | .ok l => s.update l change

/-- A store in which the file at a path begins with some bytes. -/
def write (s : FileStore) (path : String) (bytes : List UInt8) : FileStore :=
  s.change path fun earlier => bytes ++ earlier.drop bytes.length

/-- A store in which the file at a path ends with some more bytes. -/
def append (s : FileStore) (path : String) (bytes : List UInt8) : FileStore :=
  s.change path fun earlier => earlier ++ bytes

/-- A store with a text at a path. -/
def writeText (s : FileStore) (path text : String) : FileStore :=
  s.write path (Text.encode text)

/-- Whether what is written to a path finds no room. -/
def isFull (s : FileStore) (path : String) : Bool :=
  (s.target path).toOption = some Location.full

/-- Whether two paths lead to one file that keeps what is written. -/
def sameFile (s : FileStore) (path other : String) : Bool :=
  match s.target path, s.target other with
  | .ok l, .ok k => l = k && !l.isDevice
  | _, _ => false

/-- A store with a directory at a location and with all directories on the way to it. -/
def withDirectory (s : FileStore) (l : Location) : FileStore :=
  { s with directories := s.directories ++ l.way.filter fun d => !s.hasDirectory d }

/-- A store with a file of some bytes at a path, in a directory that is made where it is
missing. -/
def place (s : FileStore) (path : String) (bytes : List UInt8) : FileStore :=
  let l := Location.ofPath path
  (s.withDirectory l.dropLast).update l fun _ => bytes

/-- A store in which the file at a path can be run as a program. -/
def permit (s : FileStore) (path : String) : FileStore :=
  { s with programs := s.programs ++ [Location.ofPath path] }

/-- A store in which the file at a location cannot be run as a program. -/
def forbid (s : FileStore) (l : Location) : FileStore :=
  { s with programs := s.programs.filter (· ≠ l) }

/-- A store without what stands at a location. -/
def remove (s : FileStore) (l : Location) : FileStore where
  directories := s.directories.filter (· ≠ l)
  files := ⟨s.files.entries.filter fun entry => entry.1 ≠ l⟩
  programs := s.programs.filter (· ≠ l)

/-- The names of what stands in a directory. -/
def namesIn (s : FileStore) (l : Location) : List String :=
  ((s.directories ++ s.files.keys).filter fun k => k ≠ l && k.dropLast = l).filterMap
    List.getLast?

/-- Whether the file at a location can be run as a program. -/
def canRun (s : FileStore) (l : Location) : Bool :=
  s.programs.contains l

/-- A path below a directory that is given by a path. -/
def join (directory name : String) : String :=
  if directory.isEmpty || directory.toList.getLast? = some '/' then directory ++ name
  else directory ++ "/" ++ name

end FileStore

end RankedRetrieval

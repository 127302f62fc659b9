import RankedRetrieval.Text.Blank

/-!
# Locations

Where files and directories are.

## Main Definitions

* `Location` — the names on the way to a file or a directory
* `Location.names` — the names of a path
* `Location.above` — the directory around another one
* `Location.ofPath` — what a path denotes when all of it exists

## Design Notes

**Locations count from the working directory.**  The names of a location that begins with two
points lead out of it first, and one that begins with an empty name counts from the root
instead.  Apart from these, a location holds neither empty names nor points, so every file has
one location.

**The root is known a little.**  The directories that every system has are there, and two
devices: one that swallows all that is written, and one that takes nothing.
-/

namespace RankedRetrieval

/-- The names on the way from the working directory to a file or a directory. -/
abbrev Location := List String

namespace Location

/-- The names of a path, points included. -/
def names (path : String) : List String :=
  ((Text.splitAll '/' path.toList).map String.ofList).filter fun name => name ≠ ""

/-- The root. -/
def root : Location := [""]

/-- Where the names of a path begin. -/
def origin (path : String) : Location :=
  if path.toList.head? = some '/' then root else []

/-- Whether a path ends in a slash, so that it can only denote a directory. -/
def endsInSlash (path : String) : Bool :=
  path.toList.getLast? = some '/'

/-- Whether a location is the working directory or a directory around it. -/
def isOutward (l : Location) : Bool :=
  l.all fun name => name = ".."

/-- The directory around another one; the root lies in itself. -/
def above (l : Location) : Location :=
  if l = root then root
  else if l.isOutward then l ++ [".."]
  else l.dropLast

/-- The location that one more name leads to. -/
def enter (l : Location) (name : String) : Location :=
  if name = "." then l else if name = ".." then l.above else l ++ [name]

/-- What a path denotes when all directories on the way are there. -/
def ofPath (path : String) : Location :=
  (names path).foldl enter (origin path)

/-- The locations on the way to a location, itself included. -/
def way (l : Location) : List Location :=
  (List.range l.length).map fun n => l.take (n + 1)

/-- The greatest number of bytes in a name. -/
def longestName : Nat := 255

/-- The greatest number of bytes in a path. -/
def longestPath : Nat := 4095

/-- The directories that every system has below its root. -/
def systemDirectories : List Location :=
  ["/bin", "/boot", "/dev", "/dev/shm", "/etc", "/home", "/lib", "/media", "/mnt", "/opt", "/proc",
    "/root", "/run", "/sbin", "/srv", "/sys", "/tmp", "/usr", "/usr/bin", "/usr/lib",
    "/usr/local", "/usr/local/bin", "/usr/sbin", "/usr/share", "/var", "/var/lib", "/var/log",
    "/var/tmp"].map ofPath

/-- Whether there is a directory on every system. -/
def isSystemDirectory (l : Location) : Bool :=
  l.isOutward || l = root || systemDirectories.contains l

/-- The device that swallows what is written to it. -/
def sink : Location := ["", "dev", "null"]

/-- The device that takes nothing. -/
def full : Location := ["", "dev", "full"]

/-- Whether a location is that of a device, which is always there and keeps nothing. -/
def isDevice (l : Location) : Bool := l = sink || l = full

end Location

end RankedRetrieval

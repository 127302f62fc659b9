import RankedRetrieval.Run.Batch
import RankedRetrieval.Script.Evaluation

/-!
# The command line

The only argument is a parameter file.  The files that it names are read into a file store, the
run is computed there, and the files that it has changed are written.  Programs that learn and
classify are scripts among these files.
-/

namespace RankedRetrieval.Main

/-- A path to a location. -/
def pathTo (l : Location) : String :=
  if l = [] then "." else if l = Location.root then "/" else "/".intercalate l

/-- A store with the directory at a location, if there is one. -/
def loadDirectory (s : FileStore) (l : Location) : IO FileStore := do
  try
    discard <| IO.FS.realPath (pathTo l ++ "/.")
    pure (s.withDirectory l)
  catch _ => pure s

/-- Whether a file begins like a script. -/
def isScript (bytes : List UInt8) : Bool := bytes.take 2 = [35, 33]

/-- A store with the file at a path, if there is one, and with the directories on the way to it.
Scripts can be run. -/
def load (s : FileStore) (path : String) : IO FileStore := do
  let known ← (Location.ofPath path).way.foldlM loadDirectory s
  try
    let bytes := (← IO.FS.readBinFile path).data.toList
    let placed := known.place path bytes
    pure (if isScript bytes then placed.permit path else placed)
  catch _ => pure known

/-- Writes the files of a store that another store does not have. -/
def save (before after : FileStore) : IO Unit :=
  after.files.entries.forM fun (l, bytes) =>
    if before.fileAt? l = some bytes then pure ()
    else IO.FS.writeBinFile (pathTo l) ⟨bytes.toArray⟩

/-- The paths that a parameter file names. -/
def paths (s : FileStore) (path : String) : List String :=
  match (Input.parameters s path : Except RunError (RunParameters Number)) with
  | .ok p => p.paths
  | .error _ => []

/-- Runs a parameter file.  Yields zero when the run succeeds. -/
def run (path : String) : IO UInt32 := do
  let named ← load FileStore.empty path
  let files := paths named path
  let start ← files.foldlM load named
  let (result, final) := (Batch.run Script.host path).run start
  save start final
  match result with
  | .ok () => return 0
  | .error e =>
    IO.eprintln ("Error: " ++ e.message)
    return 1

end RankedRetrieval.Main

/-- Runs the parameter file that is given. -/
def main (arguments : List String) : IO UInt32 :=
  match arguments with
  | [path] => RankedRetrieval.Main.run path
  | _ => do
    IO.eprintln "usage: ranked-retrieval PARAM_FILE"
    return 2

import RankedRetrieval.Script.Filter

/-!
# Tools

The programs that scripts find on every system.

## Main Definitions

* `Script.Tool.run?` — what a tool yields, by its name
* `Script.Tool.isKnown` — whether there is a tool of a name
-/

namespace RankedRetrieval.Script.Tool

open ToolCall

/-! ### Paths -/

/-- A path without the slashes at its end, unless it holds nothing else. -/
def withoutSlashes (path : List Char) : List Char :=
  let kept := (path.reverse.dropWhile (· = '/')).reverse
  if kept.isEmpty then path.take 1 else kept

/-- The last name of a path. -/
def lastName (path : String) : String :=
  let cs := withoutSlashes path.toList
  if cs = ['/'] then "/" else String.ofList (cs.reverse.takeWhile (· ≠ '/')).reverse

/-- The path of the directory that a path leads into. -/
def directoryOf (path : String) : String :=
  let cs := withoutSlashes path.toList
  match (cs.reverse.dropWhile (· ≠ '/')).reverse with
  | [] => "."
  | before => String.ofList (withoutSlashes before)

/-- A text without another one at its end, unless it is that one. -/
def withoutEnding (text ending : String) : String :=
  if text ≠ ending && ending.toList.isSuffixOf text.toList then
    String.ofList (text.toList.take (text.length - ending.length))
  else text

/-- Writes the last name of a path. -/
def baseName (t : ToolCall) : Outcome :=
  match t.arguments with
  | [path] => t.writes (Text.encode (lastName path ++ "\n"))
  | [path, ending] => t.writes (Text.encode (withoutEnding (lastName path) ending ++ "\n"))
  | _ => t.ends 1

/-- Writes the directories of paths. -/
def directoryName (t : ToolCall) : Outcome :=
  match t.options? "z" "" with
  | none | some (_, []) => t.ends 1
  | some (_, paths) =>
    t.writes (Text.encode (String.join (paths.map fun path => directoryOf path ++ "\n")))

/-! ### Changes of files -/

/-- The path of a file below another path when that one denotes a directory. -/
def inside (s : FileStore) (target path : String) : String :=
  match s.find target with
  | .ok .directory => FileStore.join target (lastName path)
  | _ => target

/-- A store with a copy of a file at another path.  A new copy can be run like the file itself. -/
def copyFile? (s : FileStore) (source target : String) : Option FileStore := do
  let bytes ← (s.read source).toOption
  let l ← (s.target target).toOption
  if s.sameFile source target then none
  else
    let runs := (s.locate source).toOption.any s.canRun && (s.fileAt? l).isNone
    let copied := s.update l fun _ => bytes
    return if runs then { copied with programs := copied.programs ++ [l] } else copied

/-- Applies a change to each of some paths, and says whether all of them have succeeded. -/
def each (change : FileStore → String → Option FileStore) (s : FileStore) (paths : List String) :
    FileStore × Bool :=
  paths.foldl (fun (store, all) path =>
    match change store path with
    | some after => (after, all)
    | none => (store, false)) (s, true)

/-- Changes the files at some paths. -/
def changesEach (t : ToolCall) (paths : List String)
    (change : FileStore → String → Option FileStore) : Outcome :=
  let (store, all) := each change t.store paths
  t.changes store (if all then 0 else 1)

/-- Copies or moves files to the last path. -/
def transfer (t : ToolCall) (options : String)
    (change : FileStore → String → String → Option FileStore) : Outcome :=
  match t.options? options "" with
  | none => t.ends 1
  | some (_, paths) =>
    match paths.reverse with
    | target :: source :: [] =>
      changesEach t [source] fun s path => change s path (inside s target path)
    | target :: sources =>
      if sources.isEmpty || (t.store.find target).toOption ≠ some .directory then t.ends 1
      else changesEach t sources.reverse fun s path => change s path (inside s target path)
    | [] => t.ends 1

/-- A store in which a file has another path. -/
def moveFile? (s : FileStore) (source target : String) : Option FileStore := do
  let l ← (s.target source).toOption
  let k ← (s.target target).toOption
  if l = k then none
  else
    let copied ← copyFile? (s.remove k) source target
    return copied.remove l

/-- A store without the file at a path, or without the directory and all that is in it. -/
def removeAt? (recursive force : Bool) (s : FileStore) (path : String) : Option FileStore :=
  match s.find path, s.locate path with
  | .ok .directory, .ok l =>
    if !recursive || l.isSystemDirectory then none
    else
      let below (k : Location) : Bool := l.isPrefixOf k
      some ((s.directories ++ s.files.keys).filter below |>.foldl FileStore.remove s)
  | .ok (.file _), .ok l => some (s.remove l)
  | _, _ => if force then some s else none

/-- Removes files. -/
def removeFiles (t : ToolCall) : Outcome :=
  match t.options? "rRfiv" "" with
  | none => t.ends 1
  | some (options, paths) =>
    let force := has options 'f'
    if paths.isEmpty && !force then t.ends 1
    else changesEach t paths (removeAt? (has options 'r' || has options 'R') force)

/-- Makes sure that files exist. -/
def touch (t : ToolCall) : Outcome :=
  match t.options? "acm" "rtd" with
  | none => t.ends 1
  | some (options, paths) =>
    if paths.isEmpty then t.ends 1
    else
      changesEach t paths fun s path =>
        if (s.find path).toOption.isSome || has options 'c' then some s
        else (s.create path).toOption

/-- A store with a directory at a path, and with those on the way if asked for. -/
def makeDirectory? (parents : Bool) (s : FileStore) (path : String) : Option FileStore :=
  match s.find path with
  | .ok .directory => if parents then some s else none
  | .ok (.file _) => none
  | .error _ =>
    let l := Location.ofPath path
    if parents then
      if l.way.any fun k => (s.fileAt? k).isSome then none else some (s.withDirectory l)
    else if s.hasDirectory l.dropLast then some (s.withDirectory l)
    else none

/-- Makes directories. -/
def makeDirectories (t : ToolCall) : Outcome :=
  match t.options? "pv" "m" with
  | none => t.ends 1
  | some (options, paths) =>
    if paths.isEmpty then t.ends 1 else changesEach t paths (makeDirectory? (has options 'p'))

/-- Removes empty directories. -/
def removeDirectories (t : ToolCall) : Outcome :=
  if t.arguments.isEmpty then t.ends 1
  else
    changesEach t t.arguments fun s path =>
      match s.find path, s.locate path with
      | .ok .directory, .ok l =>
        if l.isSystemDirectory || !(s.namesIn l).isEmpty then none else some (s.remove l)
      | _, _ => none

/-- Whether a mode lets a file be run; nothing when it does not say. -/
def modeRuns? (mode : String) : Option (Option Bool) :=
  if mode.toList.all Char.isDigit then
    let digits := (mode.toList.reverse.take 3).map fun c => c.toNat - '0'.toNat
    if mode.isEmpty || mode.toList.any fun c => '7' < c then none
    else some (some (digits.any fun d => d % 2 = 1))
  else
    match (mode.toList.dropWhile fun c => "ugoa".toList.contains c) with
    | '+' :: rest => some (if rest.contains 'x' then some true else none)
    | '-' :: rest => some (if rest.contains 'x' then some false else none)
    | '=' :: rest => some (some (rest.contains 'x'))
    | _ => none

/-- Says which files can be run. -/
def changeModes (t : ToolCall) : Outcome :=
  match t.arguments with
  | mode :: path :: paths =>
    match modeRuns? mode with
    | none => t.ends 1
    | some runs? =>
      changesEach t (path :: paths) fun s p =>
        match s.find p, s.locate p, runs? with
        | .ok (.file _), .ok l, some true => some { s with programs := s.programs ++ [l] }
        | .ok (.file _), .ok l, some false => some (s.forbid l)
        | .ok _, _, _ => some s
        | .error _, _, _ => none
  | _ => t.ends 1

/-- Writes the input to files as well. -/
def tee (t : ToolCall) : Outcome :=
  match t.options? "ai" "" with
  | none => t.ends 1
  | some (options, paths) =>
    let (store, all) := each (fun s path =>
      if has options 'a' && (s.read path).toOption.isSome then some (s.append path t.input)
      else (s.create path).toOption.map fun created => created.append path t.input) t.store paths
    ⟨if all then 0 else 1, t.input, store, t.input.length⟩

/-! ### Numbers and comparisons -/

/-- The numbers from one to another in steps. -/
def numbersFrom (first step last : Int) : List Int :=
  if step = 0 then []
  else
    let span := if 0 < step then last - first else first - last
    if span < 0 then []
    else (List.range (span.natAbs / step.natAbs + 1)).map fun (n : Nat) => first + step * n

/-- Writes numbers, each in a line. -/
def sequence (t : ToolCall) : Outcome :=
  let (separator, arguments) :=
    match t.arguments with
    | "-s" :: text :: rest => (text, rest)
    | "--" :: rest => ("\n", rest)
    | arguments => ("\n", arguments)
  let numbers? := arguments.mapM fun text =>
    (Condition.decimal? text).map fun n => n.toInt
  let write (ns : List Int) : Outcome :=
    if ns.isEmpty then t.ends 0
    else t.writes (Text.encode (separator.intercalate (ns.map Int.repr) ++ "\n"))
  match numbers? with
  | some [last] => write (numbersFrom 1 1 last)
  | some [first, last] => write (numbersFrom first 1 last)
  | some [first, step, last] => if step = 0 then t.ends 1 else write (numbersFrom first step last)
  | _ => t.ends 1

/-- Writes the value of an expression whose symbols are the arguments; zero is no success. -/
def expression (t : ToolCall) : Outcome :=
  let symbols := t.arguments.map fun text =>
    match Condition.decimal? text with
    | some n => Symbol.number n
    | none => Symbol.sign (if text = "=" then "==" else text)
  match wholeExpression? symbols >>= fun e => e.value? ∅ with
  | some (n, _) =>
    { t.writes (Text.encode (n.toInt.repr ++ "\n")) with status := if n = 0 then 1 else 0 }
  | none => t.ends 2

/-- Whether two files are equal. -/
def compareFiles (t : ToolCall) : Outcome :=
  match t.options? "s" "" with
  | some (_, [path, other]) =>
    match t.store.read path, t.store.read other with
    | .ok bytes, .ok others => t.ends (if bytes = others then 0 else 1)
    | _, _ => t.ends 2
  | _ => t.ends 2

/-- Writes the names in directories, and the paths of files. -/
def listNames (t : ToolCall) : Outcome :=
  match t.options? "1aA" "" with
  | none => t.ends 2
  | some (options, paths) =>
    let sorted (names : List String) : List String := names.mergeSort fun a b => a ≤ b
    let shown (path : String) : List String :=
      match t.store.find path, t.store.locate path with
      | .ok .directory, .ok l =>
        let around := if has options 'a' then [".", ".."] else []
        let hides := !has options 'a' && !has options 'A'
        sorted (around ++ (t.store.namesIn l).filter fun name =>
          !hides || name.toList.head? ≠ some '.')
      | .ok (.file _), _ => [path]
      | _, _ => []
    let all := if paths.isEmpty then ["."] else paths
    let result := t.writes (Text.encode (String.join ((all.flatMap shown).map (· ++ "\n"))))
    if all.any fun path => (t.store.find path).toOption.isNone then { result with status := 2 }
    else result

/-- Waits for a time. -/
def sleep (t : ToolCall) : Outcome :=
  let isTime (text : String) : Bool :=
    (Decimal.readNumber (withoutEnding text "s")).toOption.any fun x => 0 ≤ x.value
  t.ends (if t.arguments.isEmpty || !t.arguments.all isTime then 1 else 0)

/-! ### Tools by name -/

/-- What a tool yields. -/
def run? (name : String) (t : ToolCall) : Option Outcome :=
  match name with
  | "true" => some (t.ends 0)
  | "false" => some (t.ends 1)
  | "echo" => some (t.writes (echo t.arguments))
  | "printf" =>
    match t.arguments with
    | [] => some (t.ends 2)
    | "--" :: text :: arguments | text :: arguments =>
      let (bytes, status) := Format.write text arguments
      some { t.writes bytes with status }
  | "test" => some (t.ends (Condition.status t.store t.arguments))
  | "[" =>
    some (t.ends (if t.arguments.getLast? = some "]" then
      Condition.status t.store t.arguments.dropLast else 2))
  | "basename" => some (baseName t)
  | "dirname" => some (directoryName t)
  | "cp" => some (transfer t "fpv" copyFile?)
  | "mv" => some (transfer t "fv" moveFile?)
  | "rm" => some (removeFiles t)
  | "touch" => some (touch t)
  | "mkdir" => some (makeDirectories t)
  | "rmdir" => some (removeDirectories t)
  | "chmod" => some (changeModes t)
  | "tee" => some (tee t)
  | "seq" => some (sequence t)
  | "expr" => some (expression t)
  | "cmp" => some (compareFiles t)
  | "ls" => some (listNames t)
  | "sleep" => some (sleep t)
  | "sync" =>
    match t.options? "df" "" with
    | none => some (t.ends 1)
    | some (_, paths) =>
      some (t.ends (if paths.all fun path => (t.store.find path).toOption.isSome then 0 else 1))
  | _ => Filter.run? name t

/-- Whether there is a tool of a name. -/
def isKnown (name : String) : Bool :=
  (run? name ⟨[], [], none, FileStore.empty⟩).isSome

end RankedRetrieval.Script.Tool

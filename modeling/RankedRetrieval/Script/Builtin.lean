import RankedRetrieval.Script.Launch
import RankedRetrieval.Script.Shell

/-!
# Commands of shells

What a script does by itself: where its streams go, and the commands that change its own state.

## Main Definitions

* `Script.Shell.open?` — the state in which a stream goes to a file
* `Script.Shell.confinedTo` — the state after commands whose changes are confined to them
* `Script.Shell.applySet`, `Script.Shell.readInto`, `Script.Shell.nextOption` — commands that
  change arguments and variables
* `Script.Shell.runTool` — the state after a tool
* `Script.Shell.readInvocation?` — what the arguments of a shell ask it to run
-/

namespace RankedRetrieval.Script.Shell

/-! ### Streams and scopes -/

/-- The state in which a command without an end to its steps leaves a script. -/
def exhausted (s : Shell) : Shell := s.ends 1

/-- Whether a redirection changes what is read. -/
def changesInput : Redirection → Bool
  | .source _ | .document _ => true
  | _ => false

/-- The state after a command under redirections, with the streams of before. -/
def withStreamsOf (after before : Shell) (redirections : List Redirection) : Shell :=
  { after with
    sinks := before.sinks
    input := if redirections.any changesInput then before.input else after.input }

/-- The state after commands whose changes of variables are confined to them. -/
def confinedTo (before inner : Shell) : Shell :=
  { before with
    store := inner.store
    input := inner.input
    collected := inner.collected
    status := inner.status
    flow :=
      match inner.flow with
      | .killed signal => .killed signal
      | _ => before.flow }

/-- The state in which confined commands begin. -/
def confined (s : Shell) : Shell := { s with flow := .next, loops := 0, handlers := ∅ }

/-- The end of a script that has been asked to end when a command fails. -/
def checked (s : Shell) : Shell :=
  if s.modes.failures && !s.tested && s.status ≠ 0 && s.goesOn then s.ends s.status else s

/-- The state behind a turn of a loop, and whether the loop goes on. -/
def afterTurn (s : Shell) : Shell × Bool :=
  match s.flow with
  | .next | .nextTurn 0 | .nextTurn 1 => ({ s with flow := .next }, true)
  | .leaveLoops 0 | .leaveLoops 1 => ({ s with flow := .next }, false)
  | .leaveLoops (n + 1) => ({ s with flow := .leaveLoops n }, false)
  | .nextTurn (n + 1) => ({ s with flow := .nextTurn n }, false)
  | _ => (s, false)

/-- The state at the start of a loop. -/
def enterLoop (s : Shell) : Shell := { s with loops := s.loops + 1 }

/-- The state behind a loop that has begun in another state. -/
def leaveLoop (s before : Shell) : Shell := { s with loops := before.loops }

/-- The state in which a sink takes a stream. -/
def direct (s : Shell) (stream : Nat) (sink : Sink) : Shell :=
  { s with sinks := s.sinks.insert stream sink }

/-- The state in which a stream goes to a file; nothing when the file cannot be opened. -/
def open? (s : Shell) (stream : Nat) (appends : Bool) (path : String) : Option Shell :=
  match s.store.target path with
  | .error _ => none
  | .ok l =>
    let keeps := appends && (s.store.fileAt? l).isSome
    let store := if keeps then s.store else s.store.update l fun _ => []
    some ({ s with store }.direct stream (if l = Location.sink then .nowhere else .file l))

/-- The state in which a script reads from a file; nothing when the file cannot be opened. -/
def read? (s : Shell) (path : String) : Option Shell :=
  match s.store.read path, s.store.locate path with
  | .ok _, .ok l => some { s with input := .file l 0 }
  | _, _ => none

/-- The state in which a stream goes where another one goes; nothing when there is none. -/
def duplicate? (s : Shell) (stream : Nat) (other : String) : Option Shell :=
  if other = "-" then
    some { s with sinks := ⟨s.sinks.entries.filter fun entry => entry.1 ≠ stream⟩ }
  else if stream = 0 then some s
  else
    match Filter.count? other with
    | none => none
    | some n => (s.sinks.get? n).map (s.direct stream)

/-! ### Commands that every script knows -/

/-- Commands whose mistakes end a script, and whose variables stay as they are. -/
def specialNames : List String :=
  [":", ".", "break", "continue", "eval", "exec", "exit", "export", "readonly", "return", "set",
    "shift", "times", "trap", "unset"]

/-- Commands that only have a status here. -/
def silentNames : List String :=
  [":", "wait", "umask", "times", "hash", "ulimit", "alias", "unalias", "jobs"]

/-- Commands that a script runs itself. -/
def ownNames : List String :=
  specialNames ++ silentNames ++
    ["local", "read", "getopts", "cd", "pwd", "kill", "command", "type", "true", "false", "echo",
      "printf", "test", "["]

/-- Ends a script, or lets a function go back, with a status. -/
def finishWith (s : Shell) (flow : Flow) (words : List String) : Shell :=
  match words with
  | [] => { s with flow }
  | word :: _ =>
    match Condition.count? word with
    | some n => { s with status := n % 256, flow }
    | none => s.ends 2

/-- Leaves loops, or goes on with their next turn. -/
def finishTurn (s : Shell) (flow : Nat → Flow) (words : List String) : Shell :=
  let go (n : Nat) : Shell :=
    if s.loops = 0 then s.withStatus 0 else { s with status := 0, flow := flow (min n s.loops) }
  match words with
  | [] => go 1
  | word :: _ =>
    match Condition.count? word with
    | some (n + 1) => go (n + 1)
    | _ => s.ends 2

/-- Takes arguments away from the front. -/
def shift (s : Shell) (words : List String) : Shell :=
  match words with
  | [] =>
    if s.arguments.isEmpty then s.ends 2
    else { s with arguments := s.arguments.drop 1, status := 0 }
  | word :: _ =>
    match Condition.count? word with
    | some n =>
      if n ≤ s.arguments.length then { s with arguments := s.arguments.drop n, status := 0 }
      else s.ends 2
    | none => s.ends 2

/-- What is done in unusual cases, after a letter has been switched on or off. -/
def switch? (modes : Modes) (on : Bool) (c : Char) : Option Modes :=
  if c = 'e' then some { modes with failures := on }
  else if c = 'u' then some { modes with names := on }
  else if c = 'f' then some { modes with keepsPatterns := on }
  else if "abChmnxvisl".toList.contains c then some modes
  else none

/-- What is done in unusual cases, after a name has been switched on or off. -/
def switchName? (modes : Modes) (on : Bool) (name : String) : Option Modes :=
  match name with
  | "errexit" => some { modes with failures := on }
  | "nounset" => some { modes with names := on }
  | "noglob" => some { modes with keepsPatterns := on }
  | "allexport" | "noclobber" | "noexec" | "xtrace" | "verbose" | "monitor"
  | "ignoreeof" | "interactive" | "stdin" | "vi" | "emacs" | "notify" | "nolog" | "debug" =>
    some modes
  | _ => none

/-- The options in front of some words, applied, and the words behind them, if there are any or
if an option says that there are none. -/
def applySwitches? (modes : Modes) : List String → Option (Modes × Option (List String))
  | [] => some (modes, none)
  | "--" :: rest => some (modes, some rest)
  | "-o" :: name :: rest => switchName? modes true name >>= fun next => applySwitches? next rest
  | "+o" :: name :: rest => switchName? modes false name >>= fun next => applySwitches? next rest
  | word :: rest =>
    match word.toList with
    | sign :: c :: cs =>
      if sign = '-' || sign = '+' then
        (c :: cs).foldlM (fun next d => switch? next (sign = '-') d) modes >>= fun next =>
          applySwitches? next rest
      else some (modes, some (word :: rest))
    | _ => some (modes, some (word :: rest))

/-- Changes options and arguments. -/
def applySet (s : Shell) (words : List String) : Shell :=
  match applySwitches? s.modes words with
  | none => s.ends 2
  | some (modes, arguments?) =>
    { s with modes, arguments := arguments?.getD s.arguments, status := 0 }

/-- The name and the value of a word that assigns. -/
def splitAssignment (word : String) : String × Option String :=
  match Text.splitOnce? '=' word with
  | some (name, value) => (name, some value)
  | none => (word, none)

/-- Gives variables values and lets other scripts see them. -/
def share (s : Shell) (words : List String) : Shell :=
  words.foldl (fun after word =>
    let (name, value?) := splitAssignment word
    if !isName name.toList then after.ends 2
    else
      let assigned := (value?.map (after.assign name)).getD after
      { assigned with exported := name :: assigned.exported }) (s.withStatus 0)

/-- Gives variables values that stay as they are. -/
def fix (s : Shell) (words : List String) : Shell :=
  words.foldl (fun after word =>
    let (name, value?) := splitAssignment word
    if !isName name.toList then after.ends 2
    else
      let assigned := (value?.map (after.assign name)).getD after
      { assigned with constants := name :: assigned.constants }) (s.withStatus 0)

/-- Gives variables values that they lose at the end of a function. -/
def makeLocal (s : Shell) (words : List String) : Shell :=
  words.foldl (fun after word =>
    let (name, value?) := splitAssignment word
    let saved := { after with outer := (name, after.bindings.get? name) :: after.outer }
    (value?.map (saved.assign name)).getD saved) (s.withStatus 0)

/-- Takes variables or functions away. -/
def unset (s : Shell) (words : List String) : Shell :=
  words.foldl (fun after word =>
    match words.head? with
    | some "-f" =>
      { after with
        functions := ⟨after.functions.entries.filter fun entry => entry.1 ≠ word⟩ }
    | _ => after.forget word) (s.withStatus 0)

/-- Whether backslashes are kept in the line that is read, and the names behind the options. -/
def readingNames (keeps : Bool) : List String → Bool × List String
  | "-p" :: _ :: rest => readingNames keeps rest
  | word :: rest =>
    if word = "-r" then readingNames true rest
    else if word.toList.head? = some '-' then readingNames keeps rest
    else (keeps, word :: rest)
  | [] => (keeps, [])

/-- Reads a line into variables; it is no success when the line has no ending. -/
def readInto (s : Shell) (words : List String) : Shell :=
  let (keeps, given) := readingNames false words
  if given.isEmpty then s.withStatus 2
  else
    let (line, ended, n) := s.nextLine keeps
    let pieces := line.map fun (c, quoted) => Atom.char c quoted (!quoted)
    ((s.skip n).assignFields pieces given).withStatus (if ended then 0 else 1)

/-- The state in which the next option stands in an argument behind some letters. -/
def seekOption (s : Shell) (argument letters : Nat) : Shell :=
  { s.assign "OPTIND" (Nat.repr argument) with optionPlace := letters }

/-- The state after an option that is unknown or lacks its value.  When the letters of the known
options begin with a colon, the kind of mistake and the letter can be told. -/
def refuseOption (s : Shell) (known name kind : String) (c : Char) : Shell :=
  if known.toList.head? = some ':' then (s.assign name kind).assign "OPTARG" (String.ofList [c])
  else (s.assign name "?").forget "OPTARG"

/-- Gives the next option among some arguments to a variable.  Among the letters of the known
options, those that take a value come with a colon. -/
def takeOption (s : Shell) (known name : String) (arguments : List String) : Shell :=
  let place := ((s.bindings.get? "OPTIND").bind Condition.count?).getD 1
  let word := ((arguments[place - 1]?).getD "").toList
  match word, word[s.optionPlace]? with
  | ['-', '-'], _ => ((s.seekOption (place + 1) 1).assign name "?").withStatus 1
  | '-' :: _, some c =>
    let later := word.drop (s.optionPlace + 1)
    let seek (s : Shell) : Shell :=
      if later.isEmpty then s.seekOption (place + 1) 1 else s.seekOption place (s.optionPlace + 1)
    let found := (s.assign name (String.ofList [c])).withStatus 0
    match known.toList.dropWhile (· ≠ c) with
    | _ :: ':' :: _ =>
      if !later.isEmpty then
        (found.seekOption (place + 1) 1).assign "OPTARG" (String.ofList later)
      else
        match arguments[place]? with
        | some value => (found.seekOption (place + 2) 1).assign "OPTARG" value
        | none => (found.seekOption (place + 1) 1).refuseOption known name ":" c
    | _ :: _ => (seek found).assign "OPTARG" ""
    | [] => (seek found).refuseOption known name "?" c
  | _, _ => (s.assign name "?").withStatus 1

/-- Gives the next option to a variable. -/
def nextOption (s : Shell) (words : List String) : Shell :=
  match words with
  | [known, name] => s.takeOption known name s.arguments
  | known :: name :: rest => s.takeOption known name rest
  | _ => s.withStatus 2

/-- The signal and the processes of a command that sends a signal. -/
def readSignal (words : List String) : Option (Nat × List String) :=
  let signal? (text : String) : Option Nat :=
    ((Filter.count? text).filter (· ≤ Signal.greatest)).or (Signal.number? text)
  match words with
  | "-s" :: name :: rest => (signal? name).map fun n => (n, rest)
  | word :: rest =>
    match word.toList with
    | '-' :: c :: cs => (signal? (String.ofList (c :: cs))).map fun n => (n, rest)
    | _ => some (15, word :: rest)
  | [] => none

/-- The name of what a handler is for. -/
def handlerName (text : String) : String :=
  match Filter.count? text with
  | some 0 => "EXIT"
  | some n => (Signal.name? n).getD text
  | none => text

/-- Says what is run at the end or when signals come. -/
def setHandlers (s : Shell) (words : List String) : Shell :=
  let remove (names : List String) : Shell :=
    { s with
      status := 0
      handlers := ⟨s.handlers.entries.filter fun entry => !names.contains entry.1⟩ }
  match words with
  | [] => s.withStatus 0
  | [name] => remove [handlerName name]
  | "-" :: names => remove (names.map handlerName)
  | "--" :: action :: names | action :: names =>
    if (Filter.count? action).isSome then remove ((action :: names).map handlerName)
    else
      let handlers := names.foldl (fun t name => t.insert (handlerName name) action) s.handlers
      { s with status := 0, handlers }

/-- Whether a command can be found by its name. -/
def knows (s : Shell) (name : String) : Bool :=
  ownNames.contains name || (s.functions.get? name).isSome || Tool.isKnown name
    || Launch.shellNames.contains name
    || (name.toList.contains '/' &&
      match launch s.store name [] with
      | .refused _ => false
      | _ => true)

/-- The state after a tool has read some bytes.  What does not come from a file has been given to
the tool as a whole. -/
def skipConsumed (s : Shell) (n : Nat) : Shell :=
  match s.input with
  | .text bytes => if n = 0 then s else s.skip bytes.length
  | .file _ _ => s.skip n

/-- Runs a tool. -/
def runTool (s : Shell) (name : String) (arguments : List String) : Shell :=
  let target? :=
    match s.sinks.get? 1 with
    | some (.file l) => some l
    | _ => none
  match Tool.run? name ⟨arguments, s.unreadBytes, target?, s.store⟩ with
  | none => s.withStatus 127
  | some outcome =>
    let read := s.skipConsumed outcome.consumed
    { read with store := outcome.store }.write outcome.output outcome.status

/-- What a shell has been asked to run. -/
structure Invocation where
  /-- What it does in unusual cases. -/
  modes : Modes
  /-- Its commands, if they are given as an argument. -/
  commands? : Option String
  /-- The file with its commands, if there is one. -/
  path? : Option String
  /-- The name of the script. -/
  name : String
  /-- The arguments of the script. -/
  arguments : List String

/-- The options in front of some arguments, applied, whether commands follow, and the arguments
behind them. -/
def readSwitches? (modes : Modes) (takesCommands : Bool) :
    List String → Option (Modes × Bool × List String)
  | [] => some (modes, takesCommands, [])
  | "--" :: rest | "-" :: rest => some (modes, takesCommands, rest)
  | "-o" :: name :: rest =>
    switchName? modes true name >>= fun next => readSwitches? next takesCommands rest
  | word :: rest =>
    match word.toList with
    | '-' :: cs =>
      (cs.filter (· ≠ 'c')).foldlM (fun next d => switch? next true d) modes >>= fun next =>
        readSwitches? next (takesCommands || cs.contains 'c') rest
    | '+' :: cs =>
      cs.foldlM (fun next d => switch? next false d) modes >>= fun next =>
        readSwitches? next takesCommands rest
    | _ => some (modes, takesCommands, word :: rest)

/-- What the arguments of a shell ask it to run. -/
def readInvocation? (arguments : List String) : Option Invocation :=
  match readSwitches? ⟨false, false, false⟩ false arguments with
  | none => none
  | some (modes, true, commands :: rest) =>
    some ⟨modes, some commands, none, rest.head?.getD "sh", rest.drop 1⟩
  | some (_, true, []) => none
  | some (modes, false, path :: rest) => some ⟨modes, none, some path, path, rest⟩
  | some (modes, false, []) => some ⟨modes, none, none, "sh", []⟩

end RankedRetrieval.Script.Shell

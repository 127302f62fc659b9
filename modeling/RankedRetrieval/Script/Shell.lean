import RankedRetrieval.Script.Command
import RankedRetrieval.Script.Pattern
import RankedRetrieval.Script.ToolCall

/-!
# Shells

The state of a script that is run.

## Main Definitions

* `Script.Shell` — the state
* `Script.Shell.value?` — the value of a parameter
* `Script.Shell.write` — what a script writes
* `Script.Shell.nextLine` — what a script reads
* `Script.Shell.fields` — the arguments that an expanded word stands for

## Design Notes

What a script writes to a file goes to the end of it.  A file that a script reads is read from
the place where reading has stopped, so parts of a script that read from one file share it.
-/

namespace RankedRetrieval.Script

/-- Where a stream of a script goes. -/
inductive Sink where
  /-- Nobody reads it. -/
  | nowhere
  /-- It is collected. -/
  | collected
  /-- It goes to a file. -/
  | file (l : Location)
  deriving DecidableEq

/-- Where a script reads from. -/
inductive Source where
  /-- Some bytes. -/
  | text (bytes : List UInt8)
  /-- A file behind a number of bytes. -/
  | file (l : Location) (skipped : Nat)
  deriving DecidableEq

/-- How a script goes on behind a command. -/
inductive Flow where
  /-- With the next command. -/
  | next
  /-- Behind some loops. -/
  | leaveLoops (loops : Nat)
  /-- With the next turn of a loop, behind some other ones. -/
  | nextTurn (loops : Nat)
  /-- Behind the call of a function. -/
  | leaveFunction
  /-- Not at all. -/
  | ended
  /-- Not at all, because of a signal. -/
  | killed (signal : Nat)
  deriving DecidableEq

/-- What a script has been asked to do in unusual cases. -/
structure Modes where
  /-- It ends when a command fails. -/
  failures : Bool
  /-- It ends when a variable has no value. -/
  names : Bool
  /-- Words are not taken for the paths that they describe. -/
  keepsPatterns : Bool
  deriving DecidableEq

/-- The state of a script that is run. -/
structure Shell where
  /-- The files. -/
  store : FileStore
  /-- The name of the script. -/
  name : String
  /-- The arguments. -/
  arguments : List String
  /-- The values of the variables. -/
  bindings : Table String String
  /-- The variables that other scripts see. -/
  exported : List String
  /-- The variables whose values stay as they are. -/
  constants : List String
  /-- How far the options in an argument have been taken apart. -/
  optionPlace : Nat
  /-- The values that variables have outside of the function that is called. -/
  outer : List (String × Option String)
  /-- The functions. -/
  functions : Table String Command
  /-- What is run at the end and when signals come. -/
  handlers : Table String String
  /-- The status of the last command. -/
  status : Nat
  /-- The status of the last commands whose output has been put into a word. -/
  substituted? : Option Nat
  /-- How the script goes on. -/
  flow : Flow
  /-- The number of loops around the command. -/
  loops : Nat
  /-- Whether it is asked if the command fails. -/
  tested : Bool
  /-- What is done in unusual cases. -/
  modes : Modes
  /-- Where the script reads from. -/
  input : Source
  /-- Where the streams go. -/
  sinks : Table Nat Sink
  /-- What has been collected, the last piece first. -/
  collected : List (List UInt8)

namespace Shell

/-- The state in which a script begins. -/
def start (store : FileStore) (name : String) (arguments : List String) (input : Source)
    (sinks : Table Nat Sink) : Shell where
  store := store
  name := name
  arguments := arguments
  bindings := ⟨[("IFS", " \t\n"), ("OPTIND", "1")]⟩
  exported := []
  constants := []
  optionPlace := 1
  outer := []
  functions := ∅
  handlers := ∅
  status := 0
  substituted? := none
  flow := .next
  loops := 0
  tested := false
  modes := ⟨false, false, false⟩
  input := input
  sinks := sinks
  collected := []

/-- The streams that nobody reads. -/
def unread : Table Nat Sink := ⟨[(1, .nowhere), (2, .nowhere)]⟩

/-- The state after a command with a status. -/
def withStatus (s : Shell) (status : Nat) : Shell := { s with status }

/-- The state after the end of the script with a status. -/
def ends (s : Shell) (status : Nat) : Shell := { s with status, flow := .ended }

/-- Whether the script goes on with the next command. -/
def goesOn (s : Shell) : Bool := s.flow = .next

/-! ### Parameters -/

/-- The number of the process of a script. -/
def processNumber : String := "4711"

/-- The characters that separate words. -/
def separators (s : Shell) : List Char :=
  ((s.bindings.get? "IFS").getD " \t\n").toList

/-- The value of a parameter, if it has one. -/
def value? (s : Shell) (name : String) : Option String :=
  match name with
  | "#" => some (Nat.repr s.arguments.length)
  | "?" => some (Nat.repr s.status)
  | "$" => some processNumber
  | "!" => none
  | "-" => some ((if s.modes.failures then "e" else "") ++ if s.modes.names then "u" else "")
  | "@" => if s.arguments.isEmpty then none else some (" ".intercalate s.arguments)
  | "*" =>
    let separator := (s.separators.head?.map fun c => String.ofList [c]).getD ""
    if s.arguments.isEmpty then none else some (separator.intercalate s.arguments)
  | _ =>
    if name.toList.all Char.isDigit then
      match (readBase 10 0 name.toList).1 with
      | 0 => some s.name
      | n + 1 => s.arguments[n]?
    else s.bindings.get? name

/-- The state in which a variable has a value.  A script ends when it changes the value of one
that is to stay as it is. -/
def assign (s : Shell) (name value : String) : Shell :=
  if s.constants.contains name then s.ends 2
  else { s with bindings := s.bindings.insert name value }

/-- The state in which a variable has no value. -/
def forget (s : Shell) (name : String) : Shell :=
  { s with bindings := ⟨s.bindings.entries.filter fun entry => entry.1 ≠ name⟩ }

/-- The state in which a variable has its value of before, if it had one. -/
def restore (s : Shell) (name : String) (value? : Option String) : Shell :=
  match value? with
  | some value => s.assign name value
  | none => s.forget name

/-! ### Streams -/

/-- The state after writing to a stream. -/
def writeTo (s : Shell) (stream : Nat) (bytes : List UInt8) : Shell :=
  match s.sinks.get? stream with
  | some .collected => { s with collected := bytes :: s.collected }
  | some (.file l) => { s with store := s.store.update l fun earlier => earlier ++ bytes }
  | some .nowhere | none => s

/-- Whether writing to a stream fails. -/
def cannotWrite (s : Shell) (stream : Nat) : Bool :=
  match s.sinks.get? stream with
  | some (.file l) => l = Location.full
  | some _ => false
  | none => true

/-- The state after writing the output of a command with a status. -/
def write (s : Shell) (bytes : List UInt8) (status : Nat) : Shell :=
  let failed := !bytes.isEmpty && s.cannotWrite 1
  (s.writeTo 1 bytes).withStatus (if failed && status = 0 then 1 else status)

/-- What is left to read. -/
def unreadBytes (s : Shell) : List UInt8 :=
  match s.input with
  | .text bytes => bytes
  | .file l skipped => ((s.store.fileAt? l).getD []).drop skipped

/-- The state after reading a number of bytes. -/
def skip (s : Shell) (n : Nat) : Shell :=
  match s.input with
  | .text bytes => { s with input := .text (bytes.drop n) }
  | .file l skipped => { s with input := .file l (skipped + n) }

/-- The bytes that have been collected. -/
def collectedBytes (s : Shell) : List UInt8 := s.collected.reverse.flatten

/-- The first line of what is left to read, with whether each byte stands behind a backslash,
whether the line has an ending, and how many bytes it takes up.  Unless backslashes are kept, one
at the end of a line joins it with the next line. -/
def splitInput (keepsBackslashes : Bool) : List UInt8 → List (UInt8 × Bool) × Bool × Nat
  | [] => ([], false, 0)
  | b :: rest =>
    if b = 10 then ([], true, 1)
    else if b = 92 && !keepsBackslashes then
      match rest with
      | [] => ([], false, 1)
      | c :: after =>
        let (line, ended, n) := splitInput keepsBackslashes after
        (if c = 10 then line else (c, true) :: line, ended, n + 2)
    else
      let (line, ended, n) := splitInput keepsBackslashes rest
      ((b, false) :: line, ended, n + 1)

/-- Characters, each with what its first byte has been marked with. -/
def markChars : List Bool → List Char → List Marked
  | _, [] => []
  | marks, c :: rest => (c, marks.head?.getD false) :: markChars (marks.drop c.utf8Size) rest

/-- The first line of what is left to read, with whether it has an ending and how many bytes it
takes up. -/
def nextLine (s : Shell) (keepsBackslashes : Bool) : List Marked × Bool × Nat :=
  let (line, ended, n) := splitInput keepsBackslashes s.unreadBytes
  (markChars (line.map Prod.snd) (textOf (line.map Prod.fst)).toList, ended, n)

/-! ### Fields -/

/-- A piece of an expanded word. -/
inductive Atom where
  /-- A character with whether it stands in quotes and whether it can separate fields. -/
  | char (c : Char) (quoted splits : Bool)
  /-- Quotes, which make a field even when they hold nothing. -/
  | quotes
  /-- The place between two arguments. -/
  | border
  deriving DecidableEq

/-- A text as pieces of a word. -/
def atoms (quoted splits : Bool) (text : String) : List Atom :=
  text.toList.map fun c => .char c quoted splits

/-- Arguments as pieces of a word. -/
def argumentAtoms (quoted : Bool) : List String → List Atom
  | [] => []
  | [text] => (if quoted then [.quotes] else []) ++ atoms quoted (!quoted) text
  | text :: rest =>
    (if quoted then [.quotes] else []) ++ atoms quoted (!quoted) text ++
      .border :: argumentAtoms quoted rest

/-- The fields that pieces stand for.  `field?` is the field that has begun, backwards, and
`closed` says that blanks have just ended a field. -/
def fieldsAfter (separators : List Char) (field? : Option (List Marked)) (closed : Bool) :
    List Atom → List (List Marked)
  | [] => (field?.map List.reverse).toList
  | .quotes :: rest => fieldsAfter separators (some (field?.getD [])) false rest
  | .border :: rest => (field?.map List.reverse).toList ++ fieldsAfter separators none false rest
  | .char c quoted splits :: rest =>
    if splits && separators.contains c then
      let blank := c = ' ' || c = '\t' || c = '\n'
      match field? with
      | some field => field.reverse :: fieldsAfter separators none blank rest
      | none =>
        if blank then fieldsAfter separators none closed rest
        else if closed then fieldsAfter separators none false rest
        else [] :: fieldsAfter separators none false rest
    else fieldsAfter separators (some ((c, quoted) :: field?.getD [])) false rest

/-- The fields that pieces stand for. -/
def fields (s : Shell) (pieces : List Atom) : List (List Marked) :=
  fieldsAfter s.separators none false pieces

/-- The characters of pieces that are not separated into fields. -/
def marked (pieces : List Atom) : List Marked :=
  pieces.filterMap fun piece =>
    match piece with
    | .char c quoted _ => some (c, quoted)
    | .border => some (' ', true)
    | .quotes => none

/-- The text of pieces that are not separated into fields. -/
def plainText (pieces : List Atom) : String := Marked.text (marked pieces)

/-! ### Paths from patterns -/

/-- The parts of a pattern between slashes. -/
def splitPattern : List Marked → List (List Marked)
  | [] => [[]]
  | (c, quoted) :: rest =>
    if c = '/' then [] :: splitPattern rest
    else
      match splitPattern rest with
      | [] => [[(c, quoted)]]
      | part :: parts => ((c, quoted) :: part) :: parts

/-- The paths that begin with a path and go on as patterns describe. -/
def matchingPaths (store : FileStore) : String → List (List Marked) → List String
  | _, [] => []
  | before, part :: rest =>
    let directory := if before = "" then "." else before
    let names :=
      if Pattern.isOpen part then
        match store.find directory, store.locate directory with
        | .ok .directory, .ok l =>
          let hidden := (part.head?.map Prod.fst) = some '.'
          (store.namesIn l).filter fun name =>
            (hidden || name.toList.head? ≠ some '.')
              && (Pattern.ofMarked part).accepts name.toList
        | _, _ => []
      else [Marked.text part]
    match rest with
    | [] =>
      let paths := names.map (before ++ ·)
      paths.filter fun path => (store.find path).toOption.isSome
    | _ =>
      names.flatMap fun name => matchingPaths store (before ++ name ++ "/") rest

/-- The arguments that a field stands for: the paths of files if it describes any, or itself. -/
def expandPaths (s : Shell) (field : List Marked) : List String :=
  let paths :=
    if !s.modes.keepsPatterns && Pattern.isOpen field then
      (matchingPaths s.store "" (splitPattern field)).mergeSort fun a b => a ≤ b
    else []
  if paths.isEmpty then [Marked.text field] else paths

/-! ### Lines -/

/-- Whether a piece of a line separates fields. -/
def separates (s : Shell) : Atom → Bool
  | .char c _ splits => splits && s.separators.contains c
  | _ => false

/-- Whether a piece of a line is a blank that separates fields. -/
def isGap (s : Shell) (piece : Atom) : Bool :=
  s.separates piece &&
    match piece with
    | .char c _ _ => isSeparator c
    | _ => false

/-- What follows a separator at the front of a line, with the blanks around it. -/
def behindSeparator (s : Shell) (pieces : List Atom) : List Atom :=
  match pieces.dropWhile s.isGap with
  | piece :: rest => if s.separates piece then rest else piece :: rest
  | [] => []

/-- The state in which the fields of a line are given to names; the last name takes all that is
left. -/
def assignFields (s : Shell) (pieces : List Atom) : List String → Shell
  | [] => s
  | [name] =>
    let trimmed := ((pieces.dropWhile s.isGap).reverse.dropWhile s.isGap).reverse
    match s.fields trimmed with
    | [] => s.assign name ""
    | [field] => s.assign name (Marked.text field)
    | _ => s.assign name (plainText trimmed)
  | name :: names =>
    let begun := pieces.dropWhile s.isGap
    let field := begun.takeWhile fun piece => !s.separates piece
    (s.assign name (plainText field)).assignFields (s.behindSeparator (begun.drop field.length))
      names

end Shell

end RankedRetrieval.Script

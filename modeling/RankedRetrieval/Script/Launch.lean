import RankedRetrieval.Program.Host
import RankedRetrieval.Script.Tool

/-!
# Launches

What is run when a program is asked for.

## Main Definitions

* `Script.Launch` — a tool or a shell with its arguments, or a reason why nothing is run
* `Script.launch` — what the name of a program with arguments leads to

## Design Notes

A file is a program when it can be run and its first line names another program, which reads it.
That program is given the rest of the line as one argument, if there is any, then the path of the
file, then the arguments of the file.
-/

namespace RankedRetrieval.Script

/-- What is run when a program is asked for. -/
inductive Launch where
  /-- A tool. -/
  | tool (name : String) (arguments : List String)
  /-- A shell. -/
  | shell (arguments : List String)
  /-- A program that only has a status. -/
  | ends (status : Nat)
  /-- Nothing. -/
  | refused (reason : StartFailure)
  deriving DecidableEq

namespace Launch

/-- The names of shells. -/
def shellNames : List String := ["sh", "dash", "bash"]

/-- The name of the program that a location on every system is meant for. -/
def systemName? (l : Location) : Option String :=
  match l with
  | ["", "bin", name] | ["", "usr", "bin", name] => some name
  | _ => none

/-- The path of the program that reads a program, and the argument that it is given.  A line that
ends without naming anything names nothing, but one that is cut short names the working
directory. -/
def reader? (bytes : List UInt8) : Option (String × List String) :=
  match bytes with
  | 35 :: 33 :: rest =>
    let behind := (rest.takeWhile (· ≠ 10)).dropWhile Filter.isGap
    let line := (behind.reverse.dropWhile Filter.isGap).reverse
    let path := line.takeWhile fun b => !Filter.isGap b
    let argument := (line.drop path.length).dropWhile Filter.isGap
    if path.isEmpty then (if rest.contains 10 then none else some (".", []))
    else some (textOf path, if argument.isEmpty then [] else [textOf argument])
  | _ => none

/-- The program that another one is asked to run, with its arguments.  Values of variables stand
in front of it; nothing is yielded for an option that is unknown. -/
def inner? : List String → Option (List String)
  | [] => some []
  | word :: rest =>
    match word.toList with
    | '-' :: 'S' :: line =>
      some ((Text.partsAfter isSeparator [] line).map String.ofList ++ rest)
    | ['-'] | ['-', 'i'] => inner? rest
    | '-' :: _ => none
    | cs => if cs.contains '=' then inner? rest else some (word :: rest)

/-- What the failure of a program that is run for another one looks like. -/
def ofInner : Launch → Launch
  | refused .missing | refused .notDirectory => ends 127
  | refused _ => ends 126
  | l => l

end Launch

mutual
/-- What a program that every system has leads to, by its name.  The first argument of this and
the following functions bounds the number of steps, and the second one is the number of programs
that may still be read by others. -/
def launchNamed : Nat → Nat → FileStore → String → List String → Launch
  | 0, _, _, _, _ => .refused .tooDeep
  | fuel + 1, links, s, name, arguments =>
    if Launch.shellNames.contains name then .shell arguments
    else if name = "env" then
      match Launch.inner? arguments with
      | none => .ends 125
      | some [] => .ends 0
      | some (program :: rest) => (launchAny fuel links s program rest).ofInner
    else if Tool.isKnown name then .tool name arguments
    else .refused .missing

/-- What the path of a program leads to. -/
def launchPath : Nat → Nat → FileStore → String → List String → Launch
  | 0, _, _, _, _ => .refused .tooDeep
  | fuel + 1, links, s, path, arguments =>
    match s.locate path, s.read path with
    | .error e, _ => .refused (.ofFileError e)
    | .ok l, .error e =>
      match Launch.systemName? l with
      | some name =>
        if Location.endsInSlash path then .refused .notDirectory
        else launchNamed fuel links s name arguments
      | none => .refused (.ofFileError e)
    | .ok l, .ok bytes =>
      if !s.canRun l then .refused .notPermitted
      else
        match Launch.reader? bytes, links with
        | none, _ => .refused .unknownForm
        | some _, 0 => .refused .tooDeep
        | some (reader, given), left + 1 =>
          launchPath fuel left s reader (given ++ path :: arguments)

/-- What the name or the path of a program leads to. -/
def launchAny : Nat → Nat → FileStore → String → List String → Launch
  | 0, _, _, _, _ => .refused .tooDeep
  | fuel + 1, links, s, program, arguments =>
    if program = "" then .refused .missing
    else if program.toList.contains '/' then launchPath fuel links s program arguments
    else if Location.longestName < program.utf8ByteSize then .refused .nameTooLong
    else if program = "." || program = ".." then .refused .notPermitted
    else launchNamed fuel links s program arguments
end

/-- The greatest number of programs that are read by each other. -/
def deepestLink : Nat := 5

/-- What is run when a program is asked for with arguments. -/
def launch (s : FileStore) (program : String) (arguments : List String) : Launch :=
  if (program :: arguments).any holdsNull then .refused .unusableText
  else launchAny (4 * arguments.length + 64) deepestLink s program arguments

end RankedRetrieval.Script

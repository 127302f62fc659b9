import RankedRetrieval.Script.Token

/-!
# Commands of scripts

## Main Definitions

* `Script.Command` — a command
* `Script.Redirection` — a change of where a command reads or writes
* `Script.parse` — the lines of a script with their commands

## Design Notes

A script is run line by line, and a line is only read when those before it have been run.  So
the commands in front of a line that makes no sense are commands of the script, and the parser
yields them along with the fact that the rest is faulty.
-/

namespace RankedRetrieval.Script

/-- A change of where a command reads or writes. -/
inductive Redirection where
  /-- It reads from a file. -/
  | source (path : Word)
  /-- It reads a text. -/
  | document (body : Word)
  /-- It writes a stream to a new file. -/
  | target (stream : Nat) (path : Word)
  /-- It writes a stream to the end of a file. -/
  | tail (stream : Nat) (path : Word)
  /-- It writes a stream where another one goes. -/
  | duplicate (stream : Nat) (other : Word)
  deriving DecidableEq

/-- A command. -/
inductive Command where
  /-- Values for variables and a program with its arguments. -/
  | simple (bindings : List (String × Word)) (words : List Word)
  /-- A command under redirections. -/
  | redirected (inner : Command) (redirections : List Redirection)
  /-- A command that reads what another one writes. -/
  | pipe (writer reader : Command)
  /-- A command whose success is failure. -/
  | negate (inner : Command)
  /-- A command, and another one if it succeeds. -/
  | both (first second : Command)
  /-- A command, and another one if it fails. -/
  | either (first second : Command)
  /-- Commands one after the other. -/
  | group (body : List Command)
  /-- Commands whose changes of variables are confined to them. -/
  | confine (body : List Command)
  /-- Commands that are chosen by a condition. -/
  | choose (condition body otherwise : List Command)
  /-- A loop that goes on while its condition succeeds, or while it fails. -/
  | loop (wanted : Bool) (condition body : List Command)
  /-- A loop over words, or over the arguments. -/
  | forEach (name : String) (words? : Option (List Word)) (body : List Command)
  /-- Commands that are chosen by patterns. -/
  | select (subject : Word) (branches : List (List Word × List Command))
  /-- A command that is given a name. -/
  | define (name : String) (body : Command)

/-! ### Simple commands -/

/-- The redirection that a sign with a word makes. -/
def redirection (sign : String) (stream? : Option Nat) (w : Word) : Redirection :=
  match sign with
  | "<" | "<>" => .source w
  | ">>" => .tail (stream?.getD 1) w
  | ">&" => .duplicate (stream?.getD 1) w
  | "<&" => .duplicate (stream?.getD 0) w
  | _ => .target (stream?.getD 1) w

/-- The redirections at the front of some tokens. -/
def readRedirections : List Token → List Redirection × List Token
  | .redirect sign stream? :: .word w :: rest =>
    let (others, after) := readRedirections rest
    (redirection sign stream? w :: others, after)
  | .document body :: rest =>
    let (others, after) := readRedirections rest
    (.document body :: others, after)
  | tokens => ([], tokens)

/-- The words and redirections of a simple command. -/
def readSimple : List Token → Option ((List Word × List Redirection) × List Token)
  | .word w :: rest =>
    (readSimple rest).map fun ((words, redirections), after) => ((w :: words, redirections), after)
  | .redirect sign stream? :: .word w :: rest =>
    (readSimple rest).map fun ((words, redirections), after) =>
      ((words, redirection sign stream? w :: redirections), after)
  | .document body :: rest =>
    (readSimple rest).map fun ((words, redirections), after) =>
      ((words, .document body :: redirections), after)
  | .redirect _ _ :: _ => none
  | tokens => some (([], []), tokens)

/-- The name and the value that a word assigns. -/
def assignment? (w : Word) : Option (String × Word) :=
  match w with
  | .literal text false :: parts =>
    (Text.splitOnceChars? '=' text.toList).bind fun (name, value) =>
      if isName name then
        let first :=
          if value.isEmpty then [] else [WordPart.literal (String.ofList value) false]
        some (String.ofList name, first ++ parts)
      else none
  | _ => none

/-- The assignments in front of some words, and the words behind them. -/
def splitAssignments : List Word → List (String × Word) × List Word
  | [] => ([], [])
  | w :: rest =>
    match assignment? w with
    | none => ([], w :: rest)
    | some binding =>
      let (bindings, words) := splitAssignments rest
      (binding :: bindings, words)

/-- A command under redirections, if there are any. -/
def Command.under (inner : Command) (redirections : List Redirection) : Command :=
  if redirections.isEmpty then inner else .redirected inner redirections

/-! ### Compound commands -/

/-- Words that have a meaning of their own where a command may begin. -/
def closingWords : List String :=
  ["then", "do", "done", "fi", "else", "elif", "esac", "\x7d", "in"]

/-- The tokens without the ends of lines at their front. -/
def skipLines : List Token → List Token
  | .sign "\n" :: rest => skipLines rest
  | tokens => tokens

/-- The tokens behind a word that has to stand there. -/
def expect? (text : String) : List Token → Option (List Token)
  | .word w :: rest => if w.plain? = some text then some rest else none
  | _ => none

/-- The tokens behind a sign that has to stand there. -/
def expectSign? (text : String) : List Token → Option (List Token)
  | .sign t :: rest => if t = text then some rest else none
  | _ => none

/-- Words up to the end of a command. -/
def readWords : List Token → List Word × List Token
  | .word w :: rest =>
    let (words, after) := readWords rest
    (w :: words, after)
  | tokens => ([], tokens)

/-- Patterns between bars, up to the bracket that closes them. -/
def readPatterns? : List Token → Option (List Word × List Token)
  | .word w :: .sign "|" :: rest =>
    (readPatterns? rest).map fun (patterns, after) => (w :: patterns, after)
  | .word w :: .sign ")" :: rest => some ([w], rest)
  | _ => none

/-- Something that has to be there. -/
def nonempty? (parsed : List Command × List Token) : Option (List Command × List Token) :=
  if parsed.1.isEmpty then none else some parsed

mutual
/-- The command at the front of some tokens.  The first argument of this and the following
functions bounds the number of steps. -/
def readCommand : Nat → List Token → Option (Command × List Token)
  | 0, _ => none
  | fuel + 1, tokens => do
    let (inner, after) ← readUnredirected fuel tokens
    let (redirections, rest) := readRedirections after
    return (inner.under redirections, rest)

/-- The command at the front of some tokens without redirections behind a compound. -/
def readUnredirected : Nat → List Token → Option (Command × List Token)
  | 0, _ => none
  | fuel + 1, .sign "(" :: rest => do
    let (body, after) ← readList fuel false rest >>= nonempty?
    let left ← expectSign? ")" after
    return (.confine body, left)
  | fuel + 1, .word w :: .sign "(" :: .sign ")" :: rest => do
    let name ← w.plain?
    let (body, after) ← readCommand fuel (skipLines rest)
    if isName name.toList then return (.define name body, after) else none
  | fuel + 1, .word w :: rest =>
    match w.plain? with
    | some "\x7b" => do
      let (body, after) ← readList fuel false rest >>= nonempty?
      let left ← expect? "\x7d" after
      return (.group body, left)
    | some "if" => readChoice fuel rest
    | some "while" => readLoop fuel true rest
    | some "until" => readLoop fuel false rest
    | some "for" => readForEach fuel rest
    | some "case" => do
      let (subject, after) ←
        match rest with
        | .word subject :: after => some (subject, after)
        | _ => none
      let behind ← expect? "in" (skipLines after)
      let (branches, left) ← readBranches fuel (skipLines behind)
      return (.select subject branches, left)
    | some text =>
      if closingWords.contains text then none else readWordsCommand (.word w :: rest)
    | none => readWordsCommand (.word w :: rest)
  | _ + 1, tokens => readWordsCommand tokens

/-- A simple command, which is not empty. -/
def readWordsCommand (tokens : List Token) : Option (Command × List Token) := do
  let ((words, redirections), after) ← readSimple tokens
  let (bindings, others) := splitAssignments words
  if words.isEmpty && redirections.isEmpty then none
  else return (Command.under (.simple bindings others) redirections, after)

/-- What follows the word that asks for a condition. -/
def readChoice : Nat → List Token → Option (Command × List Token)
  | 0, _ => none
  | fuel + 1, tokens => do
    let (condition, afterCondition) ← readList fuel false tokens >>= nonempty?
    let (body, afterBody) ←
      expect? "then" afterCondition >>= readList fuel false >>= nonempty?
    match afterBody with
    | .word w :: rest =>
      match w.plain? with
      | some "fi" => return (.choose condition body [], rest)
      | some "else" =>
        let (otherwise, after) ← readList fuel false rest >>= nonempty?
        let left ← expect? "fi" after
        return (.choose condition body otherwise, left)
      | some "elif" =>
        let (otherwise, left) ← readChoice fuel rest
        return (.choose condition body [otherwise], left)
      | _ => none
    | _ => none

/-- What follows the word that begins a loop with a condition. -/
def readLoop : Nat → Bool → List Token → Option (Command × List Token)
  | 0, _, _ => none
  | fuel + 1, wanted, tokens => do
    let (condition, afterCondition) ← readList fuel false tokens >>= nonempty?
    let (body, left) ← readBody fuel afterCondition
    return (.loop wanted condition body, left)

/-- The body of a loop. -/
def readBody : Nat → List Token → Option (List Command × List Token)
  | 0, _ => none
  | fuel + 1, tokens => do
    let (body, after) ← expect? "do" (skipLines tokens) >>= readList fuel false >>= nonempty?
    let left ← expect? "done" after
    return (body, left)

/-- What follows the word that begins a loop over words. -/
def readForEach : Nat → List Token → Option (Command × List Token)
  | 0, _ => none
  | fuel + 1, .word w :: rest => do
    let name ← w.plain?
    let (words?, after) :=
      match expect? "in" (skipLines rest) with
      | some behind =>
        let (words, left) := readWords behind
        (some words, left)
      | none => (none, rest)
    let behind :=
      match after with
      | .sign ";" :: left => left
      | left => left
    let (body, left) ← readBody fuel behind
    if isName name.toList then return (.forEach name words? body, left) else none
  | _ + 1, _ => none

/-- The branches of a choice by patterns. -/
def readBranches : Nat → List Token → Option ((List (List Word × List Command)) × List Token)
  | 0, _ => none
  | fuel + 1, tokens =>
    match expect? "esac" tokens with
    | some left => some ([], left)
    | none => do
      let (patterns, behind) ← readPatterns? ((expectSign? "(" tokens).getD tokens)
      let (body, after) ← readList fuel false behind
      match after with
      | .sign ";;" :: rest =>
        let (others, left) ← readBranches fuel (skipLines rest)
        return ((patterns, body) :: others, left)
      | _ =>
        let left ← expect? "esac" after
        return ([(patterns, body)], left)

/-- Commands with a bar between them. -/
def readPipe : Nat → List Token → Option (Command × List Token)
  | 0, _ => none
  | fuel + 1, tokens => do
    let (first, after) ← readCommand fuel tokens
    match after with
    | .sign "|" :: rest =>
      let (others, left) ← readPipe fuel (skipLines rest)
      return (.pipe first others, left)
    | _ => return (first, after)

/-- Commands with a bar between them, whose success may be negated. -/
def readPipeline : Nat → List Token → Option (Command × List Token)
  | 0, _ => none
  | fuel + 1, tokens =>
    match expect? "!" tokens with
    | some rest => (readPipe fuel rest).map fun (inner, left) => (.negate inner, left)
    | none => readPipe fuel tokens

/-- Commands that depend on the success of those before them, behind such a command. -/
def readDependent : Nat → Command → List Token → Option (Command × List Token)
  | 0, _, _ => none
  | fuel + 1, first, .sign text :: rest =>
    if text = "&&" || text = "||" then do
      let (second, left) ← readPipeline fuel (skipLines rest)
      readDependent fuel (if text = "&&" then .both first second else .either first second) left
    else some (first, .sign text :: rest)
  | _ + 1, first, tokens => some (first, tokens)

/-- Commands one after the other, up to a token that closes them or, if asked for, up to the end
of the line. -/
def readList : Nat → Bool → List Token → Option (List Command × List Token)
  | 0, _, _ => none
  | fuel + 1, oneLine, tokens =>
    match if oneLine then tokens else skipLines tokens with
    | [] => some ([], [])
    | .sign text :: rest =>
      if text = "(" then readFurther fuel oneLine (.sign text :: rest)
      else some ([], .sign text :: rest)
    | .word w :: rest =>
      if w.plain?.any closingWords.contains then some ([], .word w :: rest)
      else readFurther fuel oneLine (.word w :: rest)
    | others => readFurther fuel oneLine others

/-- A command and those that follow it. -/
def readFurther : Nat → Bool → List Token → Option (List Command × List Token)
  | 0, _, _ => none
  | fuel + 1, oneLine, tokens => do
    let (first, after) ← readPipeline fuel tokens
    let (command, behind) ← readDependent fuel first after
    match behind with
    | .sign text :: rest =>
      if text = ";" || text = "&" || (text = "\n" && !oneLine) then
        let (others, left) ← readList fuel oneLine rest
        return (command :: others, left)
      else return ([command], behind)
    | _ => return ([command], behind)
end

/-! ### Scripts -/

/-- The lines of a script that can be read, and whether these are all of them. -/
structure Parse where
  /-- The commands of the lines. -/
  lines : List (List Command)
  /-- Whether the script ends with them. -/
  complete : Bool

/-- The lines that tokens make up; `closed` says whether nothing is missing behind the last
token. -/
def readLines (closed : Bool) : Nat → List Token → Parse
  | 0, _ => ⟨[], false⟩
  | fuel + 1, tokens =>
    match skipLines tokens with
    | [] => ⟨[], closed⟩
    | others =>
      match readList (4 * others.length + 8) true others with
      | some (first :: rest, []) => if closed then ⟨[first :: rest], true⟩ else ⟨[], false⟩
      | some (first :: rest, .sign "\n" :: left) =>
        let later := readLines closed fuel left
        ⟨(first :: rest) :: later.lines, later.complete⟩
      | _ => ⟨[], false⟩

/-- The lines of a script with their commands. -/
def parse (source : String) : Parse :=
  let (tokens, closed) := tokenize source
  readLines closed (tokens.length + 1) tokens

end RankedRetrieval.Script

import RankedRetrieval.Script.Word

/-!
# Tokens of scripts

## Main Definitions

* `Script.Token` — a word, a sign or the beginning of a redirection
* `Script.tokens` — the tokens of a text

## Design Notes

The document that a command reads from the script itself stands on the lines after the command.
Its lines are taken out where it is announced, so that the tokens of the command go on behind
it.
-/

namespace RankedRetrieval.Script

/-- A token of a script. -/
inductive Token where
  /-- A word. -/
  | word (w : Word)
  /-- A sign between commands, the end of a line included. -/
  | sign (text : String)
  /-- A sign of redirection, with the stream in front of it.  Its word follows. -/
  | redirect (sign : String) (stream? : Option Nat)
  /-- A document that a command reads. -/
  | document (body : Word)
  deriving DecidableEq

/-- Whether a character ends a word outside of quotes. -/
def endsWord (c : Char) : Bool :=
  " \t\n;&|<>()".toList.contains c

/-- Signs between commands, the longer ones first. -/
def signs : List String := ["&&", "||", ";;", ";", "&", "|", "(", ")", "\n"]

/-- Signs of redirections, the longer ones first. -/
def redirectionSigns : List String := ["<<-", "<<", "<&", "<>", ">>", ">&", ">|", "<", ">"]

/-- The first of some texts that a text begins with, and what follows it. -/
def sign? (among : List String) (cs : List Char) : Option (String × List Char) :=
  (among.find? fun text => text.toList.isPrefixOf cs).map fun text => (text, cs.drop text.length)

/-- The stream that a word right before a redirection names. -/
def stream? (w : Word) : Option Nat :=
  match w.plain?.map String.toList with
  | some [c] => if c.isDigit then some (c.toNat - '0'.toNat) else none
  | _ => none

/-- The first line of a text and what follows it. -/
def splitLine (cs : List Char) : List Char × List Char :=
  (cs.takeWhile (· ≠ '\n'), (cs.dropWhile (· ≠ '\n')).drop 1)

/-- The lines of a document up to the one that closes it, and what follows that line. -/
def splitDocument (dropsTabs : Bool) (closing : List Char) :
    Nat → List Char → List Char × List Char
  | 0, cs => ([], cs)
  | _ + 1, [] => ([], [])
  | fuel + 1, cs =>
    let (line, after) := splitLine cs
    let kept := if dropsTabs then line.dropWhile (· = '\t') else line
    if kept = closing then ([], after)
    else
      let (body, rest) := splitDocument dropsTabs closing fuel after
      (kept ++ '\n' :: body, rest)

/-- The document that is announced at the front of a text, and the text without it. -/
def readDocument? (dropsTabs : Bool) (cs : List Char) : Option (Word × List Char) :=
  let text := cs.dropWhile fun c => c = ' ' || c = '\t'
  (readWord? endsWord (text.length + 1) .bare [] text).bind fun (closing, after) =>
    if closing.isEmpty then none
    else
      let (line, later) := splitLine after
      let last := closing.literalText.toList
      let (body, rest) := splitDocument dropsTabs last (later.length + 1) later
      let text := String.ofList body
      let content? :=
        if closing.any Word.isQuoted then some [WordPart.literal text true]
        else wholeWord? .document text
      content?.map fun content => (content, line ++ '\n' :: rest)

/-- The tokens of a text, and whether all of it could be read.  The first argument bounds the
number of steps. -/
def tokens : Nat → List Char → List Token × Bool
  | 0, _ => ([], false)
  | _ + 1, [] => ([], true)
  | fuel + 1, c :: rest =>
    let go (token : Token) (after : List Char) :=
      let (later, complete) := tokens fuel after
      (token :: later, complete)
    if c = ' ' || c = '\t' then tokens fuel rest
    else if c = '#' then tokens fuel (rest.dropWhile (· ≠ '\n'))
    else if c = '\\' && rest.head? = some '\n' then tokens fuel rest.tail
    else
      match sign? signs (c :: rest) with
      | some (text, after) => go (.sign text) after
      | none =>
        match sign? redirectionSigns (c :: rest) with
        | some (text, after) =>
          if text = "<<" || text = "<<-" then
            match readDocument? (text = "<<-") after with
            | some (body, without) => go (.document body) without
            | none => ([], false)
          else go (.redirect text none) after
        | none =>
          match readWord? endsWord (rest.length + 2) .bare [] (c :: rest) with
          | none => ([], false)
          | some (w, after) =>
            match stream? w, sign? redirectionSigns after with
            | some stream, some (text, behind) =>
              if text = "<<" || text = "<<-" then tokens fuel after
              else go (.redirect text (some stream)) behind
            | _, _ => go (.word w) after

/-- The tokens of a script, and whether all of it could be read. -/
def tokenize (source : String) : List Token × Bool :=
  tokens (2 * source.length + 2) source.toList

end RankedRetrieval.Script

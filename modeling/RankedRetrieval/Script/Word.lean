import RankedRetrieval.Text.Blank

/-!
# Words of scripts

The words that the commands of a script are made of, and how they are read.

## Main Definitions

* `Script.Word` — a word with the values that are put into it
* `Script.readWord?` — the word at the front of a text

## Design Notes

A word is a list of parts, each with whether it stands in quotes.  What is inside of a
substitution is kept as a text and read when its value is asked for.
-/

namespace RankedRetrieval.Script

/-- A part of a word. -/
inductive WordPart where
  /-- A text as it stands. -/
  | literal (text : String) (quoted : Bool)
  /-- The value of a parameter. -/
  | parameter (name : String) (quoted : Bool)
  /-- What a modifier with a word makes of the value of a parameter. -/
  | modified (name modifier word : String) (quoted : Bool)
  /-- What commands write. -/
  | output (source : String) (quoted : Bool)
  /-- The value of an arithmetic expression. -/
  | value (expression : String) (quoted : Bool)
  deriving DecidableEq

/-- A word. -/
abbrev Word := List WordPart

namespace Word

/-- Adds a text to the end of a word that is given backwards. -/
def addText (text : String) (quoted : Bool) : Word → Word
  | .literal before q :: rest =>
    if q = quoted then .literal (before ++ text) q :: rest
    else .literal text quoted :: .literal before q :: rest
  | parts => .literal text quoted :: parts

/-- Adds a character to the end of a word that is given backwards. -/
def addChar (c : Char) (quoted : Bool) (parts : Word) : Word :=
  addText (String.ofList [c]) quoted parts

/-- The text of a word that is a single text without quotes. -/
def plain? : Word → Option String
  | [.literal text false] => some text
  | _ => none

/-- Whether a part stands in quotes. -/
def isQuoted : WordPart → Bool
  | .literal _ quoted | .parameter _ quoted | .modified _ _ _ quoted | .output _ quoted
  | .value _ quoted => quoted

/-- The text of the literal parts of a word. -/
def literalText (w : Word) : String :=
  String.join (w.map fun part =>
    match part with
    | .literal text _ => text
    | _ => "")

end Word

/-! ### Substitutions -/

/-- The character that encloses commands whose output is substituted. -/
def backquote : Char := Char.ofNat 96

/-- Whether a character can stand in the name of a variable. -/
def isNameChar (c : Char) : Bool := c.isAlphanum || c = '_'

/-- Whether a text is the name of a variable. -/
def isName (cs : List Char) : Bool :=
  !cs.isEmpty && cs.all isNameChar && !(cs.head?.any Char.isDigit)

/-- Whether a character is the name of a parameter by itself. -/
def isSpecial (c : Char) : Bool := "@*#?$!-".toList.contains c || c.isDigit

/-- What stands before the character that closes a bracket, and what follows it.  `depth` is the
number of brackets that have been opened inside, and `quote?` the quote that is open. -/
def splitClosed? (opening closing : Char) (depth : Nat) (quote? : Option Char) :
    List Char → Option (List Char × List Char)
  | [] => none
  | '\\' :: c :: rest =>
    (splitClosed? opening closing depth quote? rest).map fun sides =>
      ('\\' :: c :: sides.1, sides.2)
  | c :: rest =>
    let keep (depth : Nat) (quote? : Option Char) :=
      (splitClosed? opening closing depth quote? rest).map fun sides => (c :: sides.1, sides.2)
    match quote? with
    | some quote => keep depth (if c = quote then none else some quote)
    | none =>
      if c = '\x27' || c = '"' then keep depth (some c)
      else if c = closing then
        match depth with
        | 0 => some ([], rest)
        | inner + 1 => keep inner none
      else keep (if c = opening then depth + 1 else depth) none

/-- The modifiers of parameters, the longer ones first. -/
def modifiers : List String :=
  [":-", ":=", ":?", ":+", "%%", "##", "-", "=", "?", "+", "%", "#"]

/-- The part that stands in braces. -/
def braced? (quoted : Bool) (inner : List Char) : Option WordPart :=
  match inner with
  | '#' :: c :: rest =>
    if isName (c :: rest) || (isSpecial c && rest.isEmpty) then
      some (.modified (String.ofList (c :: rest)) "length" "" quoted)
    else none
  | _ =>
    let name :=
      match inner with
      | c :: rest =>
        if c.isDigit then (c :: rest).takeWhile Char.isDigit
        else if isSpecial c then [c]
        else (c :: rest).takeWhile isNameChar
      | [] => []
    let after := inner.drop name.length
    if name.isEmpty then none
    else if after.isEmpty then some (.parameter (String.ofList name) quoted)
    else
      (modifiers.find? fun m => m.toList.isPrefixOf after).map fun m =>
        .modified (String.ofList name) m (String.ofList (after.drop m.length)) quoted

/-- The part in brackets: an arithmetic expression when there are two of them. -/
def bracketed (quoted : Bool) (inner : List Char) : WordPart :=
  match inner, inner.getLast? with
  | '(' :: rest, some ')' => .value (String.ofList rest.dropLast) quoted
  | _, _ => .output (String.ofList inner) quoted

/-- The part that follows a dollar sign, and what follows the part. -/
def readDollar? (quoted : Bool) : List Char → Option (WordPart × List Char)
  | '(' :: rest =>
    (splitClosed? '(' ')' 0 none rest).map fun sides => (bracketed quoted sides.1, sides.2)
  | '{' :: rest =>
    (splitClosed? '{' '}' 0 none rest).bind fun sides =>
      (braced? quoted sides.1).map fun part => (part, sides.2)
  | c :: rest =>
    if isSpecial c then some (.parameter (String.ofList [c]) quoted, rest)
    else if isNameChar c then
      some (.parameter (String.ofList ((c :: rest).takeWhile isNameChar)) quoted,
        (c :: rest).dropWhile isNameChar)
    else some (.literal "$" quoted, c :: rest)
  | [] => some (.literal "$" quoted, [])

/-- A text without the backslashes that protect a character inside of backquotes. -/
def unprotect : List Char → List Char
  | '\\' :: c :: rest =>
    if c = backquote || c = '\\' || c = '$' then c :: unprotect rest
    else '\\' :: c :: unprotect rest
  | c :: rest => c :: unprotect rest
  | [] => []

/-- The part that follows a backquote, and what follows the part. -/
def readBackquoted? (quoted : Bool) (rest : List Char) : Option (WordPart × List Char) :=
  (splitClosed? backquote backquote 0 none rest).map fun sides =>
    (.output (String.ofList (unprotect sides.1)) quoted, sides.2)

/-! ### Words -/

/-- Where a text is read. -/
inductive Place where
  /-- Outside of quotes. -/
  | bare
  /-- Between double quotes. -/
  | quoted
  /-- In a text that follows the command it is given to. -/
  | document
  deriving DecidableEq

/-- Whether a backslash protects a character between double quotes or in a document. -/
def isProtected (place : Place) (c : Char) : Bool :=
  c = '$' || c = '\\' || c = backquote || (c = '"' && place = .quoted)

/-- The word at the front of a text and what follows it.  `stops` says which characters end it
outside of quotes, and `parts` is what has been read, backwards.  The first argument bounds the
number of steps. -/
def readWord? (stops : Char → Bool) :
    Nat → Place → Word → List Char → Option (Word × List Char)
  | 0, _, _, _ => none
  | _ + 1, place, parts, [] => if place = .quoted then none else some (parts.reverse, [])
  | fuel + 1, .bare, parts, c :: rest =>
    if c = '"' then readWord? stops fuel .quoted (parts.addText "" true) rest
    else if c = '\x27' then
      match rest.dropWhile (· ≠ '\x27') with
      | _ :: after =>
        let text := String.ofList (rest.takeWhile (· ≠ '\x27'))
        readWord? stops fuel .bare (parts.addText text true) after
      | [] => none
    else if c = '\\' then
      match rest with
      | '\n' :: after => readWord? stops fuel .bare parts after
      | d :: after => readWord? stops fuel .bare (parts.addChar d true) after
      | [] => some ((parts.addChar c true).reverse, [])
    else if c = '$' then
      (readDollar? false rest).bind fun (part, after) =>
        readWord? stops fuel .bare (part :: parts) after
    else if c = backquote then
      (readBackquoted? false rest).bind fun (part, after) =>
        readWord? stops fuel .bare (part :: parts) after
    else if stops c then some (parts.reverse, c :: rest)
    else readWord? stops fuel .bare (parts.addChar c false) rest
  | fuel + 1, place, parts, c :: rest =>
    if c = '"' && place = .quoted then readWord? stops fuel .bare parts rest
    else if c = '\\' then
      match rest with
      | '\n' :: after => readWord? stops fuel place parts after
      | d :: after =>
        let before := if isProtected place d then parts else parts.addChar c true
        readWord? stops fuel place (before.addChar d true) after
      | [] => readWord? stops fuel place (parts.addChar c true) []
    else if c = '$' then
      (readDollar? true rest).bind fun (part, after) =>
        readWord? stops fuel place (part :: parts) after
    else if c = backquote then
      (readBackquoted? true rest).bind fun (part, after) =>
        readWord? stops fuel place (part :: parts) after
    else readWord? stops fuel place (parts.addChar c true) rest

/-- The word that all of a text makes up. -/
def wholeWord? (place : Place) (text : String) : Option Word :=
  (readWord? (fun _ => false) (text.length + 1) place [] text.toList).map Prod.fst

end RankedRetrieval.Script

import RankedRetrieval.Decimal.Reading
import RankedRetrieval.Query.Error
import RankedRetrieval.Query.Operator
import RankedRetrieval.Text.AsciiCase

/-!
# Tokens of the query language

## Main Definitions

* `Token` — a closing parenthesis or a word
* `Token.lex` — the tokens of a text
* `Token.keyword?` — the operator that a word is the keyword of

## Design Notes

Blanks, commas and opening parentheses only separate tokens, since an operator opens its
arguments by itself.  Keywords are recognised in any letter case.
-/

namespace RankedRetrieval

/-- A token of the query language. -/
inductive Token where
  /-- The end of an operator's arguments. -/
  | close
  /-- A maximal text without separators. -/
  | word (text : String)
  deriving DecidableEq

namespace Token

/-- The text of a token. -/
def text : Token → String
  | close => ")"
  | word text => text

/-- Whether a character ends a word. -/
def isDelimiter (c : Char) : Bool :=
  c = ' ' || c = '\t' || c = '\n' || c = '\r' || c = ',' || c = '(' || c = ')'

/-- The word that has been read, given backwards, before further tokens. -/
def flush (word : List Char) (tokens : List Token) : List Token :=
  if word.isEmpty then tokens else .word (String.ofList word.reverse) :: tokens

/-- The tokens after the characters of a word that has begun, the last one first. -/
def lexAfter (word : List Char) : List Char → List Token
  | [] => flush word []
  | c :: rest =>
    if isDelimiter c then
      flush word (if c = ')' then .close :: lexAfter [] rest else lexAfter [] rest)
    else lexAfter (c :: word) rest

/-- The tokens of a text. -/
def lex (text : String) : List Token :=
  lexAfter [] text.toList

/-- What follows a beginning of a text. -/
def dropStart? (start text : String) : Option String :=
  if start.toList.isPrefixOf text.toList then
    some (String.ofList (text.toList.drop start.length))
  else none

/-- The distance that digits stand for, which is positive. -/
def distance (word digits : String) : Except QueryError Nat :=
  match Decimal.readNat Decimal.greatestWord digits with
  | .ok (n + 1) => .ok (n + 1)
  | _ => .error (.invalidDistance word)

/-- The operator whose keyword a word is, if it is one. -/
def keyword? (word : String) : Except QueryError (Option Operator) :=
  match Text.lowerAscii word with
  | "#or" => .ok (some .or)
  | "#and" => .ok (some .and)
  | "#wand" => .ok (some .wand)
  | "#sum" => .ok (some .sum)
  | "#wsum" => .ok (some .wsum)
  | "#syn" => .ok (some .syn)
  | lower =>
    match dropStart? "#near/" lower with
    | some digits => (distance word digits).map fun n => some (.near n)
    | none =>
      match dropStart? "#window/" lower with
      | some digits => (distance word digits).map fun n => some (.window n)
      | none => .ok none

end Token

end RankedRetrieval

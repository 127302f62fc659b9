import RankedRetrieval.Query.Cleanup
import RankedRetrieval.Query.Token
import RankedRetrieval.Text.Analysis
import RankedRetrieval.Text.Blank

/-!
# The query parser

A query text is the argument list of a default operator, and is read from left to right with a
stack of the operators that are still open.

## Main Definitions

* `Frame` — an operator that is still open
* `Query.parseTokens` — the query that tokens denote
* `Query.parse` — the clean query that a text denotes under a default operator

## Design Notes

The stack is never empty while tokens are read: its top is a frame of its own, and closing the
outermost frame ends the query.  A weighted operator reads a weight before each argument.  A
weight is used up by the word after it even when that word is a stop word, and a word with
several stems gives its weight to each of them.
-/

namespace RankedRetrieval

/-- An operator that is still open, with the weight that has been read for its next
argument. -/
structure Frame (α : Type) where
  /-- The operator. -/
  op : Operator
  /-- The arguments so far. -/
  args : List (Query α)
  /-- The weights so far. -/
  weights : List α
  /-- The weight of the next argument. -/
  pending : Option α

namespace Frame

variable {α : Type}

/-- An operator without arguments. -/
def start (op : Operator) : Frame α := ⟨op, [], [], none⟩

/-- The query of a frame. -/
def query (f : Frame α) : Query α := .apply f.op f.args f.weights

/-- Whether the next word has to be a weight. -/
def expectsWeight (f : Frame α) : Bool :=
  f.op.isWeighted && f.pending.isNone

/-- A frame with one more argument, and no weight for the next one. -/
def push [NatCast α] (f : Frame α) (arg : Query α) (weight : Option α) : Frame α where
  op := f.op
  args := f.args ++ [arg.under f.op]
  weights := if f.op.isWeighted then f.weights ++ [weight.getD ((0 : Nat) : α)] else f.weights
  pending := none

/-- A frame with a closed operator as its next argument. -/
def attach [NatCast α] [Numeral α] (f : Frame α) (arg : Query α) :
    Except QueryError (Frame α) :=
  if f.op.isWeighted then
    match f.pending with
    | some weight => .ok (f.push arg (some weight))
    | none => .error (.missingWeight arg.text)
  else .ok (f.push arg none)

/-- A frame with the stems of a word as its next arguments. -/
def pushTerms [NatCast α] (f : Frame α) (stems : List String) (field : String) : Frame α :=
  { stems.foldl (fun g stem => g.push (.term stem field) f.pending) f with pending := none }

end Frame

namespace Query

variable {α : Type}

/-- The text and the field of a word.  The field follows the first point and is written in any
letter case. -/
def splitField (word : String) : Except QueryError (String × String) :=
  match Text.splitOnce? '.' word with
  | none => .ok (word, defaultField)
  | some (text, name) =>
    let field := String.ofList (Unicode.lowerCase name.toList)
    if fields.contains field then .ok (text, field) else .error (.unknownField word)

/-- The frame on top of the stack after a word that is no keyword. -/
def readWord [NatCast α] [Numeral α] (top : Frame α) (word : String) :
    Except QueryError (Frame α) :=
  if top.expectsWeight then
    match Numeral.read word with
    | .ok weight => .ok { top with pending := some weight }
    | .error _ => .error (.missingWeight word)
  else
    (splitField word).map fun (text, field) => top.pushTerms (Text.queryTerms text) field

/-- The query that tokens denote, read with `top` as the innermost open operator and `outer` as
the operators around it.  `source` is the text that a missing parenthesis is reported for. -/
def parseTokens [NatCast α] [Numeral α] (source : String) (top : Frame α)
    (outer : List (Frame α)) : List Token → Except QueryError (Query α)
  | [] => .error (.unbalanced source)
  | .close :: rest =>
    match outer with
    | [] =>
      if rest.isEmpty then .ok top.query
      else .error (.trailingTokens (" ".intercalate (rest.map Token.text)))
    | parent :: others =>
      match parent.attach top.query with
      | .ok frame => parseTokens source frame others rest
      | .error e => .error e
  | .word word :: rest =>
    match Token.keyword? word with
    | .error e => .error e
    | .ok (some op) => parseTokens source (Frame.start op) (top :: outer) rest
    | .ok none =>
      match readWord top word with
      | .ok frame => parseTokens source frame outer rest
      | .error e => .error e

/-- The clean query that a text denotes as the argument list of a default operator. -/
def parse [NatCast α] [Numeral α] (default : Operator) (source : String) :
    Except QueryError (Query α) :=
  (parseTokens source (Frame.start default) [] (Token.lex source ++ [.close])).map cleanup

end Query

end RankedRetrieval

/-!
# Query errors

Why a query cannot be parsed, evaluated or scored.

## Main Definitions

* `QueryError` — the causes
* `QueryError.message` — their wording
* `QueryError.isQueryLocal` — whether only the query at hand is affected
-/

namespace RankedRetrieval

/-- The causes for which a query has no result. -/
inductive QueryError where
  /-- A term names a field that does not exist. -/
  | unknownField (token : String)
  /-- An operator is not closed. -/
  | unbalanced (query : String)
  /-- An argument of a weighted operator has no weight before it. -/
  | missingWeight (argument : String)
  /-- Something follows the outermost operator. -/
  | trailingTokens (tokens : String)
  /-- A distance is not a positive number. -/
  | invalidDistance (token : String)
  /-- A positional operator has a structural argument. -/
  | notPositional (argument : String)
  /-- The arguments of a positional operator lie in different fields. -/
  | fieldMismatch (operator first other : String)
  /-- The retrieval model does not score an operator. -/
  | unsupported (model operator : String)
  /-- The program that ranks by features failed. -/
  | ranker (cause : String)
  deriving DecidableEq

namespace QueryError

/-- The wording of an error. -/
def message : QueryError → String
  | unknownField token => "unknown field in '" ++ token ++ "'"
  | unbalanced query => "unbalanced parentheses in query '" ++ query ++ "'"
  | missingWeight argument => "missing weight before '" ++ argument ++ "'"
  | trailingTokens tokens => "query syntax is incorrect, unexpected '" ++ tokens ++ "'"
  | invalidDistance token => "invalid proximity distance in '" ++ token ++ "'"
  | notPositional argument => argument ++ " cannot be an argument of a positional operator"
  | fieldMismatch operator first other =>
    "arguments of " ++ operator ++ " must share one field, found " ++ first ++ " and " ++ other
  | unsupported model operator => model ++ " doesn't support the " ++ operator ++ " operator"
  | ranker cause => "ranker failed: " ++ cause

/-- Whether an error is confined to its query, so that a run goes on with the next one. -/
def isQueryLocal : QueryError → Bool
  | unknownField _ | unbalanced _ | missingWeight _ | trailingTokens _ | invalidDistance _
  | notPositional _ | fieldMismatch _ _ _ => true
  | unsupported _ _ | ranker _ => false

end QueryError

end RankedRetrieval

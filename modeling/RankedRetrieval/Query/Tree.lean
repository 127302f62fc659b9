import RankedRetrieval.Scalar
import RankedRetrieval.Query.Operator

/-!
# Query trees

## Main Definitions

* `Query` — a query as a tree of operators over terms
* `Query.append` — a query with one more argument
* `Query.text` — a query in the syntax that the parser reads
* `Query.fields` — the fields that a term may name

## Design Notes

Weighted operators carry one weight per argument.  The list of weights stands beside the
arguments, since a tree may be given with fewer weights than arguments.  `score` around a
single argument does not show in the text.
-/

namespace RankedRetrieval

/-- A query: a term in a field, or an operator with arguments and weights. -/
inductive Query (α : Type) where
  /-- The occurrences of a stem in a field. -/
  | term (stem field : String)
  /-- An operator applied to arguments. -/
  | apply (op : Operator) (args : List (Query α)) (weights : List α)

namespace Query

variable {α : Type}

mutual
/-- Whether two queries are the same is decided part by part. -/
def decEq [DecidableEq α] : (q r : Query α) → Decidable (q = r)
  | term stem field, term other_stem other_field =>
    decidable_of_decidable_of_iff (p := stem = other_stem ∧ field = other_field) (by simp)
  | term .., apply .. => isFalse (by simp)
  | apply .., term .. => isFalse (by simp)
  | apply op args weights, apply other others other_weights =>
    match decEqAll args others with
    | isTrue same =>
      decidable_of_decidable_of_iff (p := op = other ∧ weights = other_weights) (by simp [same])
    | isFalse differ => isFalse (by simp [differ])

/-- Whether two lists of queries are the same is decided query by query. -/
def decEqAll [DecidableEq α] : (qs rs : List (Query α)) → Decidable (qs = rs)
  | [], [] => isTrue rfl
  | [], _ :: _ => isFalse (by simp)
  | _ :: _, [] => isFalse (by simp)
  | q :: qs, r :: rs =>
    match decEq q r with
    | isFalse differ => isFalse (by simp [differ])
    | isTrue same =>
      match decEqAll qs rs with
      | isTrue others => isTrue (by simp [same, others])
      | isFalse differ => isFalse (by simp [differ])
end

instance decidableEq [DecidableEq α] : DecidableEq (Query α) := decEq

/-- The fields that a term may name. -/
def fields : List String := ["body", "title", "url", "inlink", "keywords"]

/-- The field of a term that names none. -/
def defaultField : String := "body"

/-- The arguments of a query; a term has none. -/
def args : Query α → List (Query α)
  | term _ _ => []
  | apply _ args _ => args

/-- Whether a query yields occurrences with positions. -/
def isPositional : Query α → Bool
  | term _ _ => true
  | apply op _ _ => op.isPositional

/-- Whether a query is an operator without arguments. -/
def isChildless : Query α → Bool
  | apply _ [] _ => true
  | apply _ (_ :: _) _ => false
  | term _ _ => false

/-- A query scored as an argument of its own. -/
def scored (q : Query α) : Query α :=
  apply .score [q] []

/-- A query as it stands under an operator: structural operators score positional arguments. -/
def under (op : Operator) (q : Query α) : Query α :=
  if !op.isPositional && op ≠ .score && q.isPositional then q.scored else q

/-- A query with one more argument.  The weight is kept by weighted operators only and is zero
when it is not given; a term takes no arguments. -/
def append [NatCast α] (q arg : Query α) (weight : Option α) : Query α :=
  match q with
  | term stem field => term stem field
  | apply op args weights =>
    apply op (args ++ [arg.under op])
      (if op.isWeighted then weights ++ [weight.getD ((0 : Nat) : α)] else weights)

/-- The query that a `score` around a single argument scores, or the query itself. -/
def unwrapScore : Query α → Query α
  | apply .score (q :: _) _ => q
  | q => q

/-- Texts of arguments, each after its weight if there is one. -/
def weighted [Numeral α] : List α → List String → List String
  | _, [] => []
  | [], texts => texts
  | w :: weights, t :: texts => (Numeral.text w ++ " " ++ t) :: weighted weights texts

mutual
/-- The text of a query. -/
def text [Numeral α] : Query α → String
  | term stem field => stem ++ "." ++ field
  | apply .score [q] _ => q.text
  | apply op args weights =>
    op.text ++ "(" ++ " ".intercalate (weighted weights (texts args)) ++ ")"

/-- The texts of queries. -/
def texts [Numeral α] : List (Query α) → List String
  | [] => []
  | q :: qs => q.text :: texts qs
end

mutual
/-- The number of terms and operators in a query. -/
def size : Query α → Nat
  | term _ _ => 1
  | apply _ args _ => 1 + sizes args

/-- The number of terms and operators in queries. -/
def sizes : List (Query α) → Nat
  | [] => 0
  | q :: qs => q.size + sizes qs
end

end Query

end RankedRetrieval

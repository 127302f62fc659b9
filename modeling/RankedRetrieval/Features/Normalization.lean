import RankedRetrieval.Features.Extraction

/-!
# Normalization of features

The features of the documents of one query are scaled so that the least value of a feature
becomes zero and the greatest one.

## Main Definitions

* `FeatureVector.bounds?` — the least and the greatest of some values
* `FeatureVector.normalize` — the scaled feature vectors

## Design Notes

Each column is scaled by itself.  Missing values are ignored and stay missing; a column without
two different values becomes zero throughout.
-/

namespace RankedRetrieval.FeatureVector

variable {α : Type} [Scalar α]

/-- The least and the greatest of some values. -/
def bounds? : List α → Option (α × α)
  | [] => none
  | v :: rest =>
    some (rest.foldl (fun b w => (Scalar.lesser b.1 w, Scalar.greater b.2 w)) (v, v))

omit [Scalar α] in
/-- The values that are present in a column. -/
def column (rows : List (FeatureVector α)) (n : Nat) : List α :=
  rows.filterMap fun row => row[n]?.join

/-- A cell of a column with given bounds, scaled. -/
def scaleCell (bounds : Option (α × α)) (cell : Option α) : Option α :=
  match bounds with
  | none => some (Scalar.ofNat 0)
  | some (low, high) =>
    if Scalar.less low high then cell.map fun v => (v - low) / (high - low)
    else some (Scalar.ofNat 0)

/-- The cells of a row from a column on, scaled. -/
def scaleFrom (rows : List (FeatureVector α)) : Nat → FeatureVector α → FeatureVector α
  | _, [] => []
  | n, cell :: rest => scaleCell (bounds? (column rows n)) cell :: scaleFrom rows (n + 1) rest

/-- The feature vectors of the documents of one query, scaled. -/
def normalize (rows : List (FeatureVector α)) : List (FeatureVector α) :=
  rows.map (scaleFrom rows 0)

end RankedRetrieval.FeatureVector

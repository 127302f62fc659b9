import RankedRetrieval.Decimal.Digits

/-!
# Pieces of numbers

The texts of numbers are handed to a writer in pieces.

## Main Definitions

* `Decimal.pieces` — the pieces of the text of a number
* `Decimal.integerPieces` — the pieces of an integer

## Design Notes

The sign, the whole part, the point and the places after it are pieces of their own, but a zero
before the point and the point are one piece.  Zeros that only carry the magnitude of a number
are handed over apart from its other digits, in pieces of at most 64.
-/

namespace RankedRetrieval.Decimal

/-- The greatest number of zeros in a piece. -/
def zerosPerPiece : Nat := 64

/-- Zeros in pieces. -/
def zeroPieces (zeros : Nat) : List (List Char) :=
  if zeros = 0 then []
  else if zeros ≤ zerosPerPiece then [List.replicate zeros '0']
  else List.replicate zerosPerPiece '0' :: zeroPieces (zeros - zerosPerPiece)
termination_by zeros
decreasing_by simp only [zerosPerPiece] at *; omega

/-- The pieces of the places after a zero and a point. -/
def placePieces (places : List Char) : List (List Char) :=
  zeroPieces (places.takeWhile (· = '0')).length ++ [places.dropWhile (· = '0')]

/-- The pieces of a numeral without a point. -/
def wholePieces (ds : List Char) : List (List Char) :=
  [(ds.reverse.dropWhile (· = '0')).reverse] ++ zeroPieces (ds.reverse.takeWhile (· = '0')).length

/-- The pieces of a numeral without a sign. -/
def unsignedPieces (cs : List Char) : List (List Char) :=
  match cs.dropWhile (· ≠ '.') with
  | [] => wholePieces cs
  | point :: places =>
    if cs.takeWhile (· ≠ '.') = ['0'] then ['0', point] :: placePieces places
    else [cs.takeWhile (· ≠ '.'), [point], places]

/-- The pieces of a numeral. -/
def signedPieces : List Char → List (List Char)
  | '-' :: cs => ['-'] :: unsignedPieces cs
  | cs => unsignedPieces cs

/-- The pieces of the text of a number. -/
def pieces (text : String) : List String :=
  (signedPieces text.toList).map String.ofList

/-- The pieces of an integer. -/
def integerPieces (n : Int) : List String :=
  if n < 0 then ["-", Nat.repr n.natAbs] else [Nat.repr n.natAbs]

/-! ### The pieces make up the text -/

theorem flatten_zeroPieces (zeros : Nat) :
    (zeroPieces zeros).flatten = List.replicate zeros '0' := by
  fun_induction zeroPieces zeros with
  | case1 => rfl
  | case2 zeros _ _ => simp
  | case3 zeros _ long ih =>
    rw [List.flatten_cons, ih, List.replicate_append_replicate]
    congr 1
    omega

/-- What is taken while a test asks for one character is that character repeated. -/
theorem takeWhile_eq_replicate (c : Char) (cs : List Char) :
    cs.takeWhile (· = c) = List.replicate (cs.takeWhile (· = c)).length c := by
  apply List.eq_replicate_of_mem
  intro d hd
  simpa using List.all_eq_true.1 List.all_takeWhile d hd

theorem flatten_placePieces (places : List Char) : (placePieces places).flatten = places := by
  rw [placePieces, List.flatten_append, flatten_zeroPieces, ← takeWhile_eq_replicate]
  simp

theorem flatten_wholePieces (ds : List Char) : (wholePieces ds).flatten = ds := by
  rw [wholePieces, List.flatten_append, flatten_zeroPieces, ← List.reverse_replicate,
    ← takeWhile_eq_replicate]
  simp [← List.reverse_append]

theorem flatten_unsignedPieces (cs : List Char) : (unsignedPieces cs).flatten = cs := by
  have split := List.takeWhile_append_dropWhile (p := (· ≠ '.')) (l := cs)
  unfold unsignedPieces
  split
  · exact flatten_wholePieces cs
  · rename_i point places rest
    rw [rest] at split
    split
    · rename_i whole
      rw [whole] at split
      simpa [flatten_placePieces] using split
    · simpa using split

/-- The pieces of a numeral make up the numeral. -/
theorem flatten_signedPieces (cs : List Char) : (signedPieces cs).flatten = cs := by
  unfold signedPieces
  split <;> simp [flatten_unsignedPieces]

/-- The pieces of the text of a number make up the text. -/
@[simp]
theorem join_pieces (text : String) : String.join (pieces text) = text := by
  simp [← String.toList_inj, pieces, List.flatMap_map, String.toList_ofList,
    flatten_signedPieces, List.flatMap_id']

/-- The pieces of an integer make up its text. -/
@[simp]
theorem join_integerPieces (n : Int) : String.join (integerPieces n) = n.repr := by
  unfold integerPieces
  cases n with
  | ofNat n => simp [Int.repr, show ¬ ((n : Int) < 0) by omega]
  | negSucc n => simp [Int.repr]

end RankedRetrieval.Decimal

import RankedRetrieval.Unicode.Composition

/-!
# Normalization form KC

A text is decomposed, marks are put into canonical order, and what can be composed is composed
again.

## Main Definitions

* `Unicode.normalize` — the normalization form KC of a text

## Design Notes

Composition keeps the last starter apart from the marks after it.  A mark is blocked when the
last mark that was kept has a class at least as great as its own.
-/

namespace RankedRetrieval.Unicode

/-- Puts a mark before a text in canonical order, behind the marks of a smaller class. -/
def insertMark (mark : Char) : List Char → List Char
  | [] => [mark]
  | c :: rest =>
    if 0 < combiningClass c && combiningClass c < combiningClass mark then
      c :: insertMark mark rest
    else mark :: c :: rest

/-- Sorts every run of marks by class, keeping the order of equal classes. -/
def orderMarks : List Char → List Char
  | [] => []
  | c :: rest =>
    if combiningClass c = 0 then c :: orderMarks rest else insertMark c (orderMarks rest)

/-- Composes what follows a starter.  `marks` are the marks kept since the starter, the last
one first. -/
def composeAfter (starter : Char) (marks : List Char) : List Char → List Char
  | [] => starter :: marks.reverse
  | c :: rest =>
    match marks with
    | [] =>
      match compose? starter c with
      | some composite => composeAfter composite [] rest
      | none =>
        if combiningClass c = 0 then starter :: composeAfter c [] rest
        else composeAfter starter [c] rest
    | last :: earlier =>
      if combiningClass c ≤ combiningClass last then
        if combiningClass c = 0 then
          starter :: (last :: earlier).reverse ++ composeAfter c [] rest
        else composeAfter starter (c :: last :: earlier) rest
      else
        match compose? starter c with
        | some composite => composeAfter composite (last :: earlier) rest
        | none => composeAfter starter (c :: last :: earlier) rest

/-- Composes a text in canonical order; marks before the first starter stay as they are. -/
def composeAll : List Char → List Char
  | [] => []
  | c :: rest =>
    if combiningClass c = 0 then composeAfter c [] rest else c :: composeAll rest

/-- The normalization form KC of a text. -/
def normalize (cs : List Char) : List Char :=
  composeAll (orderMarks (cs.flatMap decompose))

end RankedRetrieval.Unicode

import RankedRetrieval.Positional.Evaluation
import RankedRetrieval.Proofs.Index.Consistency
import RankedRetrieval.Proofs.Positional.Evaluation

/-!
# Lists that are filled posting by posting

A merge may fill its list while it visits the documents: every posting is appended behind the
others, after a check that its document lies beyond theirs, and the number of occurrences is
counted along the way.  The checks never fail, and the count is that of the finished list.

## Main Definitions

* `Filling` — a list with the number of occurrences counted so far
* `Filling.append?` — appending a posting, if its document lies beyond the others
* `Query.fill?` — a positional operator as a loop that appends

## Main Results

* `Filling.foldlM_append?` — increasing postings fill a list, and all their occurrences are counted
* `Query.fill?_eq` — a positional operator fills the list that it merges
-/

namespace RankedRetrieval

/-- A list that is being filled. -/
structure Filling where
  /-- The postings so far. -/
  list : InvertedList
  /-- The number of occurrences that have been counted. -/
  occurrences : Nat

namespace Filling

/-- A list of a field before its first posting. -/
def empty (field : String) : Filling where
  list := ⟨field, []⟩
  occurrences := 0

/-- Appends a posting; nothing when its document does not lie beyond that of the last one. -/
def append? (filling : Filling) (p : Posting) : Option Filling :=
  if ∀ last ∈ filling.list.postings.getLast?, last.doc < p.doc then
    some
      { list := ⟨filling.list.field, filling.list.postings ++ [p]⟩
        occurrences := filling.occurrences + p.tf }
  else none

/-- A list of increasing postings takes another one beyond them, and keeps its count. -/
theorem append?_of_increasing {field : String} {ps : List Posting} {p : Posting}
    (increasing : Increasing (ps ++ [p])) :
    append? ⟨⟨field, ps⟩, InvertedList.ctf ⟨field, ps⟩⟩ p =
      some ⟨⟨field, ps ++ [p]⟩, InvertedList.ctf ⟨field, ps ++ [p]⟩⟩ := by
  have beyond : ∀ last ∈ ps.getLast?, last.doc < p.doc := fun last hlast =>
    (List.pairwise_append.1 increasing).2.2 last (List.mem_of_mem_getLast? hlast) p
      (List.mem_singleton_self p)
  rw [append?, if_pos beyond]
  simp [Index.ctf_eq_sum]

/-- Increasing postings fill a list, and all their occurrences are counted. -/
theorem foldlM_append? (field : String) {ps : List Posting} (increasing : Increasing ps) :
    ps.foldlM append? (empty field) = some ⟨⟨field, ps⟩, InvertedList.ctf ⟨field, ps⟩⟩ := by
  induction ps using List.reverseRecOn with
  | nil => rfl
  | append_singleton ps p ih =>
    have before : Increasing ps := (List.pairwise_append.1 increasing).1
    rw [List.foldlM_append, ih before, Option.bind_eq_bind, Option.bind_some]
    simp only [List.foldlM_cons, List.foldlM_nil, bind_pure]
    exact append?_of_increasing increasing

end Filling

namespace Merge

/-- `unite` as a loop that appends. -/
def uniteOnto : Nat → List Cursor → Filling → Option Filling
  | 0, _, out => some out
  | fuel + 1, cs, out =>
    match leastDoc? cs with
    | none => some out
    | some doc => (out.append? ⟨doc, positionsAt doc cs⟩).bind (uniteOnto fuel (leave doc cs))

/-- `intersect` as a loop that appends. -/
def intersectOnto (occurrences : List (List Nat) → List Nat) :
    Nat → List Cursor → Filling → Option Filling
  | 0, _, out => some out
  | fuel + 1, cs, out =>
    match Cursor.align cs with
    | none => some out
    | some (doc, aligned) =>
      let found := occurrences (aligned.map Cursor.positions)
      let later := intersectOnto occurrences fuel (leaveFirst doc aligned)
      if found.isEmpty then later out else (out.append? ⟨doc, found⟩).bind later

theorem uniteOnto_eq (fuel : Nat) (cs : List Cursor) (out : Filling) :
    uniteOnto fuel cs out = (unite fuel cs).foldlM Filling.append? out := by
  induction fuel generalizing cs out with
  | zero => rfl
  | succ fuel ih =>
    rw [uniteOnto, unite]
    cases leastDoc? cs with
    | none => rfl
    | some doc =>
      rw [List.foldlM_cons]
      exact congrArg (Option.bind _) (funext (ih (leave doc cs)))

theorem intersectOnto_eq (occurrences : List (List Nat) → List Nat) (fuel : Nat)
    (cs : List Cursor) (out : Filling) :
    intersectOnto occurrences fuel cs out =
      (intersect occurrences fuel cs).foldlM Filling.append? out := by
  induction fuel generalizing cs out with
  | zero => rfl
  | succ fuel ih =>
    rw [intersectOnto, intersect]
    cases Cursor.align cs with
    | none => rfl
    | some found =>
      obtain ⟨doc, aligned⟩ := found
      dsimp only
      split
      · exact ih (leaveFirst doc aligned) out
      · rw [List.foldlM_cons]
        exact congrArg (Option.bind _) (funext (ih (leaveFirst doc aligned)))

end Merge

namespace Query

/-- The list that a positional operator fills while it visits the documents of its arguments. -/
def fill? (op : Operator) (lists : List InvertedList) : Option Filling :=
  let out := Filling.empty ((lists.head?.map InvertedList.field).getD "")
  let cs := lists.map Cursor.start
  let fuel := Cursor.totalRemaining cs
  match op with
  | .syn => Merge.uniteOnto fuel cs out
  | .near distance => Merge.intersectOnto (Merge.nearOccurrences distance) fuel cs out
  | .window size => Merge.intersectOnto (Merge.windowOccurrences size) fuel cs out
  | _ => some out

/-- A positional operator fills the list that it merges: no posting is refused, and its count is
that of all postings. -/
theorem fill?_eq (op : Operator) {lists : List InvertedList}
    (ordered : ∀ l ∈ lists, Ordered l.postings) :
    fill? op lists = some ⟨merge op lists, (merge op lists).ctf⟩ := by
  have appended : fill? op lists =
      (mergePostings op lists).foldlM Filling.append? (Filling.empty (merge op lists).field) := by
    cases op with
    | syn => exact Merge.uniteOnto_eq _ _ _
    | near distance => exact Merge.intersectOnto_eq _ _ _ _
    | window size => exact Merge.intersectOnto_eq _ _ _ _
    | score | or | and | wand | sum | wsum => rfl
  rw [appended, Filling.foldlM_append? _ (mergePostings_increasing op ordered)]
  rfl

end Query

end RankedRetrieval

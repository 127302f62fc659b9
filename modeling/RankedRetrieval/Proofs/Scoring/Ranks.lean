import RankedRetrieval.Proofs.Exact.Counts
import RankedRetrieval.Proofs.Positional.Evaluation
import RankedRetrieval.Proofs.Scoring.Induction

/-!
# Ranks of documents

Under the two Boolean models the score of a document is a matter of frequencies alone.  The rank
of a document by a query is found by recursion on the query, without building a scoring tree.

## Main Definitions

* `Query.frequency` — how often a positional query occurs in a document
* `Query.rank` — the greatest or the least of the frequencies that a query combines
* `Query.counted` — the positional queries whose occurrences are counted
* `ScoringTree.RankedAt` — a tree that matches and scores a document by its rank

## Main Results

* `Query.Proper.matchesDoc_iff` — a scoring tree matches the documents of positive rank
* `Query.Proper.rankedAt` — the ranked Boolean model scores a document by its rank
* `ScoringTree.scoreAt_unrankedBoolean` — the unranked Boolean model scores every match alike

## Design Notes

A rank does not ask which arguments are repeats of others: the extremes of numbers do not change
when some of the numbers are given twice.
-/

namespace RankedRetrieval

variable {α : Type}

/-! ### Extremes -/

namespace ScoringTree

/-- The rank of a combination by those of its arguments: the least of them where all arguments
are asked for, and the greatest otherwise. -/
def combinedRank (model : RetrievalModel α) (op : Operator) (ranks : List Nat) : Nat :=
  if asksForAll model op then ranks.min?.getD 0 else ranks.max?.getD 0

theorem max_le_iff {ns : List Nat} {m : Nat} : ns.max?.getD 0 ≤ m ↔ ∀ n ∈ ns, n ≤ m := by
  cases greatest : ns.max? with
  | none => simp [List.max?_eq_none_iff.1 greatest]
  | some k => exact List.max?_le_iff greatest

theorem le_min_iff {ns : List Nat} {m : Nat} (some_number : ns ≠ []) :
    m ≤ ns.min?.getD 0 ↔ ∀ n ∈ ns, m ≤ n := by
  cases least : ns.min? with
  | none => exact absurd (List.min?_eq_none_iff.1 least) some_number
  | some k => exact List.le_min?_iff least

/-- Numbers that are zero do not matter to the greatest one. -/
theorem max_filter_positive (ns : List Nat) :
    (ns.filter (0 < ·)).max?.getD 0 = ns.max?.getD 0 := by
  refine eq_of_forall_ge_iff fun m => ?_
  rw [max_le_iff, max_le_iff]
  constructor
  · intro bounded n hn
    by_cases positive : 0 < n
    · exact bounded n (List.mem_filter.2 ⟨hn, by simpa using positive⟩)
    · omega
  · intro bounded n hn
    exact bounded n (List.mem_of_mem_filter hn)

theorem filterMap_positive {β : Type} (f : Nat → β) (ns : List Nat) :
    (ns.map fun n => if 0 < n then some (f n) else none).filterMap id =
      (ns.filter (0 < ·)).map f := by
  induction ns with
  | nil => rfl
  | cons n ns ih =>
    by_cases positive : 0 < n
    · simpa [positive] using ih
    · simpa [positive] using ih

variable {model : RetrievalModel α} {op : Operator} {ns ms : List Nat}

/-- Only which ranks there are matters. -/
theorem combinedRank_congr (same : ∀ n, n ∈ ns ↔ n ∈ ms) :
    combinedRank model op ns = combinedRank model op ms := by
  unfold combinedRank
  split
  · by_cases no_number : ns = []
    · have none_either : ms = [] := List.eq_nil_iff_forall_not_mem.2 fun n hn =>
        List.not_mem_nil (no_number ▸ (same n).2 hn)
      rw [no_number, none_either]
    · have some_either : ms ≠ [] := fun none_either =>
        no_number (List.eq_nil_iff_forall_not_mem.2 fun n hn =>
          List.not_mem_nil (none_either ▸ (same n).1 hn))
      refine eq_of_forall_le_iff fun m => ?_
      rw [le_min_iff no_number, le_min_iff some_either]
      exact forall_congr' fun n => imp_congr_left (same n)
  · refine eq_of_forall_ge_iff fun m => ?_
    rw [max_le_iff, max_le_iff]
    exact forall_congr' fun n => imp_congr_left (same n)

@[simp]
theorem combinedRank_singleton (n : Nat) : combinedRank model op [n] = n := by
  simp [combinedRank]

theorem combinedRank_all_pos_iff (asks : asksForAll model op = true) :
    0 < combinedRank model op ns ↔ ns ≠ [] ∧ ∀ n ∈ ns, 0 < n := by
  rw [combinedRank, if_pos asks]
  by_cases no_number : ns = []
  · simp [no_number]
  · rw [Nat.lt_iff_add_one_le, le_min_iff no_number]
    exact (and_iff_right no_number).symm

theorem combinedRank_any_pos_iff (one_suffices : asksForAll model op = false) :
    0 < combinedRank model op ns ↔ ∃ n ∈ ns, 0 < n := by
  rw [combinedRank, if_neg (by simp [one_suffices]), ← not_iff_not, Nat.not_lt, max_le_iff]
  simp

/-- What bounds all ranks bounds the one that they combine to. -/
theorem combinedRank_lt {bound : Nat} (positive : 0 < bound) (small : ∀ n ∈ ns, n < bound) :
    combinedRank model op ns < bound := by
  unfold combinedRank
  split
  · cases least : ns.min? with
    | none => exact positive
    | some n => exact small n (List.min?_mem least)
  · cases greatest : ns.max? with
    | none => exact positive
    | some n => exact small n (List.max?_mem greatest)

/-! ### Combinations -/

/-- A combination matches the documents of positive rank when its arguments do. -/
theorem matchesDoc_combine_iff {doc : DocId} {trees : List (ScoringTree α)} {weights : List α}
    {current : Option DocId}
    (ranked : List.Forall₂ (fun t n => t.matchesDoc model doc = true ↔ 0 < n) trees ns) :
    (combine op trees weights current).matchesDoc model doc = true ↔
      0 < combinedRank model op ns := by
  cases asks : asksForAll model op with
  | true =>
    rw [matchesDoc_combine_all asks, combinedRank_all_pos_iff asks, allMatch_iff]
    refine and_congr ?_ ?_
    · rw [← List.length_pos_iff, ← List.length_pos_iff, ranked.length_eq]
    · induction ranked with
      | nil => simp
      | cons head _ ih => rw [List.forall_mem_cons, List.forall_mem_cons, head, ih]
  | false =>
    rw [matchesDoc_combine_any asks, combinedRank_any_pos_iff asks]
    induction ranked with
    | nil => simp
    | cons head _ ih => rw [List.exists_mem_cons_iff, List.exists_mem_cons_iff, head, ih]

section Scores

variable [Scalar α] {index : Index} {doc : DocId} {trees : List (ScoringTree α)}

/-- What the ranked Boolean model makes of a document by a tree: where the rank is positive, the
tree matches the document and scores it by its rank. -/
structure RankedAt (index : Index) (doc : DocId) (t : ScoringTree α) (n : Nat) : Prop where
  /-- The documents of positive rank are matched. -/
  matchesDoc_iff : t.matchesDoc .rankedBoolean doc = true ↔ 0 < n
  /-- The rank fits into a machine word. -/
  lt_countBound : n < Scalar.countBound
  /-- The documents of positive rank are scored by it. -/
  scoreAt_eq : 0 < n → scoreAt index .rankedBoolean doc t = .ok (Scalar.ofNat n)

/-- Where all ranks are positive, all scores are ranks. -/
theorem scoresOfAll_eq (positive : ∀ n ∈ ns, 0 < n)
    (ranked : List.Forall₂ (RankedAt index doc) trees ns) :
    scoresOfAll index .rankedBoolean doc trees = .ok (ns.map Scalar.ofNat) := by
  induction ranked with
  | nil => rfl
  | cons head _ ih =>
    obtain ⟨first_positive, positive⟩ := List.forall_mem_cons.1 positive
    rw [scoresOfAll, head.scoreAt_eq first_positive, ih positive]
    rfl

/-- The arguments that match are those of positive rank. -/
theorem scoresOfMatching_eq (ranked : List.Forall₂ (RankedAt index doc) trees ns) :
    scoresOfMatching index .rankedBoolean doc trees =
      .ok (ns.map fun n => if 0 < n then some (Scalar.ofNat n) else none) := by
  induction ranked with
  | nil => rfl
  | @cons t n _ _ head _ ih =>
    rw [scoresOfMatching, ih, List.map_cons]
    by_cases positive : 0 < n
    · rw [if_pos (head.matchesDoc_iff.2 positive), if_pos positive, head.scoreAt_eq positive]
      rfl
    · rw [if_neg (mt head.matchesDoc_iff.1 positive), if_neg positive]
      rfl

theorem lt_countBound_of_ranked (ranked : List.Forall₂ (RankedAt index doc) trees ns) :
    ∀ n ∈ ns, n < Scalar.countBound := by
  induction ranked with
  | nil => simp
  | cons head _ ih => exact List.forall_mem_cons.2 ⟨head.lt_countBound, ih⟩

variable [Scalar.ComparesCounts α]

/-- The ranked Boolean model scores a combination by its rank when it scores the arguments by
theirs. -/
theorem RankedAt.combine {weights : List α} {current : Option DocId}
    (supported : (.rankedBoolean : RetrievalModel α).supports op = true)
    (not_score : op ≠ .score) (ranked : List.Forall₂ (RankedAt index doc) trees ns) :
    RankedAt index doc (combine op trees weights current)
      (combinedRank (.rankedBoolean : RetrievalModel α) op ns) where
  matchesDoc_iff := matchesDoc_combine_iff (ranked.imp fun _ _ head => head.matchesDoc_iff)
  lt_countBound := combinedRank_lt (by decide) (lt_countBound_of_ranked ranked)
  scoreAt_eq positive := by
    have small := lt_countBound_of_ranked ranked
    cases op with
    | and | wand =>
      obtain ⟨some_rank, all_positive⟩ := (combinedRank_all_pos_iff rfl).1 positive
      rw [scoreAt, scoresOfAll_eq all_positive ranked]
      exact congrArg Except.ok (Scalar.foldl_lesser_ofNat small some_rank)
    | or =>
      rw [scoreAt, scoresOfMatching_eq ranked, Except.map, filterMap_positive,
        Scalar.foldl_greater_ofNat fun n hn => small n (List.mem_of_mem_filter hn),
        max_filter_positive]
      rfl
    | score => exact absurd rfl not_score
    | syn | near | window | sum | wsum => simp [RetrievalModel.supports] at supported

omit [Scalar.ComparesCounts α] in
/-- The unranked Boolean model scores every match alike. -/
theorem scoreAt_unrankedBoolean {t : ScoringTree α} (supported : t.Supported .unrankedBoolean)
    (matched : t.matchesDoc .unrankedBoolean doc = true) :
    scoreAt index .unrankedBoolean doc t = .ok (Scalar.ofNat 1) := by
  cases supported with
  | @leaf cursor qtf _ =>
    obtain ⟨p, hp, same⟩ := matchesDoc_leaf.1 matched
    rw [scoreAt, leafScoreAt]
    cases found : cursor.list.postings.find? fun p => p.doc = doc with
    | none => exact absurd same (by simpa using List.find?_eq_none.1 found p hp)
    | some p => rfl
  | @combine op _ _ _ supported structural _ =>
    cases op with
    | or | and | wand => rfl
    | score => exact absurd rfl structural
    | syn | near | window | sum | wsum => simp [RetrievalModel.supports] at supported

end Scores

end ScoringTree

namespace Query

open ScoringTree

variable [Numeral α] (index : Index) (model : RetrievalModel α) (doc : DocId)

/-! ### Ranks of queries -/

/-- How often a positional query occurs in a document; never when it has no list. -/
def frequency (q : Query α) : Nat :=
  match q.positional index with
  | .error _ => 0
  | .ok list => ((list.postings.find? fun p => p.doc = doc).map Posting.tf).getD 0

mutual
/-- The rank of a document by a query. -/
def rank : Query α → Nat
  | term stem field => frequency index doc (term stem field : Query α)
  | apply op args weights =>
    if op.isPositional then frequency index doc (apply op args weights)
    else if op = .score then
      match args with
      | [] => 0
      | inner :: _ => frequency index doc inner
    else combinedRank model op (ranks args)

/-- The ranks of a document by some queries. -/
def ranks : List (Query α) → List Nat
  | [] => []
  | q :: qs => rank q :: ranks qs
end

mutual
/-- The positional queries whose occurrences a query counts. -/
def counted : Query α → List (Query α)
  | term stem field => [term stem field]
  | apply op args weights =>
    if op.isPositional then [apply op args weights]
    else if op = .score then args.take 1
    else countedAll args

/-- The positional queries whose occurrences some queries count. -/
def countedAll : List (Query α) → List (Query α)
  | [] => []
  | q :: qs => counted q ++ countedAll qs
end

theorem ranks_eq_map (qs : List (Query α)) :
    ranks index model doc qs = qs.map (rank index model doc) := by
  induction qs with
  | nil => rfl
  | cons q qs ih => rw [ranks, ih, List.map_cons]

omit [Numeral α] in
theorem mem_countedAll {qs : List (Query α)} {p : Query α} :
    p ∈ countedAll qs ↔ ∃ q ∈ qs, p ∈ q.counted := by
  induction qs with
  | nil => simp [countedAll]
  | cons q qs ih => rw [countedAll, List.mem_append, ih, List.exists_mem_cons_iff]

/-- The rank by a positional query is its frequency. -/
theorem rank_of_isPositional {q : Query α} (positional : q.isPositional = true) :
    rank index model doc q = frequency index doc q := by
  cases q with
  | term => rw [rank]
  | apply op args weights =>
    rw [rank.eq_def]
    exact if_pos positional

omit [Numeral α] in
theorem counted_of_isPositional {q : Query α} (positional : q.isPositional = true) :
    q.counted = [q] := by
  cases q with
  | term => rw [counted]
  | apply op args weights =>
    rw [counted.eq_def]
    exact if_pos positional

variable {index model doc}

theorem rank_structural {op : Operator} {args : List (Query α)} {weights : List α}
    (structural : op.isPositional = false) (not_score : op ≠ .score) :
    rank index model doc (apply op args weights) =
      combinedRank model op (args.map (rank index model doc)) := by
  rw [rank.eq_def]
  dsimp only
  rw [if_neg (by simp [structural]), if_neg not_score, ranks_eq_map]

omit [Numeral α] in
theorem counted_structural {op : Operator} {args : List (Query α)} {weights : List α}
    (structural : op.isPositional = false) (not_score : op ≠ .score) :
    (apply op args weights).counted = countedAll args := by
  rw [counted.eq_def]
  dsimp only
  rw [if_neg (by simp [structural]), if_neg not_score]

/-- Queries that score the same have the same rank. -/
theorem ScoresLike.rank_eq {q r : Query α} (like : q.ScoresLike r) :
    rank index model doc q = rank index model doc r := by
  rcases like with rfl | ⟨inner, weights, other_weights, rfl, rfl⟩
  · rfl
  · rw [rank, rank]
    rfl

variable [Scalar α]

/-- Folding leaves arguments of the same ranks. -/
theorem Proper.combinedRank_scoredArgs {op : Operator} {args : List (Query α)} {weights : List α}
    (args_proper : ∀ q ∈ args, Proper q) :
    combinedRank model op ((scoredArgs op args weights).map fun f => f.item.rank index model doc) =
      combinedRank model op (args.map (rank index model doc)) := by
  refine combinedRank_congr fun n => ⟨fun member => ?_, fun member => ?_⟩
  · obtain ⟨f, hf, rfl⟩ := List.mem_map.1 member
    exact List.mem_map_of_mem (mem_of_scoredArg hf).1
  · obtain ⟨q, hq, rfl⟩ := List.mem_map.1 member
    obtain ⟨f, hf, like⟩ : ∃ f ∈ scoredArgs op args weights, f.item.ScoresLike q :=
      exists_scoredArg args_proper hq
    exact List.mem_map.2 ⟨f, hf, like.rank_eq⟩

/-! ### Ranks in scoring trees -/

omit [Scalar α] in
/-- The leaf of a positional query matches the documents that the query occurs in. -/
theorem matchesDoc_scoringLeaf (posted : index.WellPosted) {q : Query α} {qtf : Nat}
    {tree : ScoringTree α} (built : q.scoringLeaf index qtf = .ok tree) :
    tree.matchesDoc model doc = true ↔ 0 < frequency index doc q := by
  obtain ⟨list, evaluated, rfl⟩ := Except.map_eq_ok_iff.1 built
  rw [matchesDoc_leaf, frequency, evaluated]
  dsimp only
  show (∃ p ∈ list.postings, p.doc = doc) ↔ _
  cases found : list.postings.find? fun p => p.doc = doc with
  | none =>
    have nowhere := List.find?_eq_none.1 found
    simpa using nowhere
  | some p =>
    have member : p ∈ list.postings := List.mem_of_find?_eq_some found
    have same : p.doc = doc := by simpa using List.find?_some found
    have some_position := (positional_sound posted q evaluated p member).positions_ne_nil
    exact iff_of_true ⟨p, member, same⟩ (List.length_pos_iff.2 some_position)

/-- The ranked Boolean model scores a leaf by the frequency of its query. -/
theorem scoreAt_scoringLeaf {q : Query α} {qtf : Nat} {tree : ScoringTree α}
    (built : q.scoringLeaf index qtf = .ok tree) :
    scoreAt index .rankedBoolean doc tree = .ok (Scalar.ofNat (frequency index doc q)) := by
  obtain ⟨list, evaluated, rfl⟩ := Except.map_eq_ok_iff.1 built
  rw [scoreAt, leafScoreAt, frequency, evaluated]
  dsimp only [Cursor.start]
  cases list.postings.find? fun p => p.doc = doc with
  | none => rfl
  | some p => rfl

namespace Proper

omit [Scalar α] in
/-- A query that scores a positional one by itself ranks a document by the frequency of that one,
which is all that it counts. -/
theorem rank_of_scoredPart? (index : Index) (model : RetrievalModel α) {q p : Query α}
    (proper : Proper q) (found : q.scoredPart? = some p) :
    (∀ doc, rank index model doc q = frequency index doc p) ∧ q.counted = [p] := by
  unfold scoredPart? at found
  split at found
  · obtain ⟨inner, same, -, -⟩ := proper.of_score
    obtain ⟨rfl, rfl⟩ := List.cons.inj same
    obtain rfl := Option.some.inj found
    refine ⟨fun doc => ?_, ?_⟩
    · rw [rank]
      rfl
    · rw [counted]
      rfl
  · split at found
    · rename_i positional
      obtain rfl := Option.some.inj found
      exact ⟨fun doc => rank_of_isPositional index model doc positional,
        counted_of_isPositional positional⟩
    · simp at found

/-- What leaves give a query and combinations keep, every proper query and its scoring tree
have. -/
@[elab_as_elim]
theorem of_build {R : Query α → ScoringTree α → Prop}
    (leaf : ∀ q p qtf tree, p.scoringLeaf index qtf = .ok tree →
      (∀ doc, rank index model doc q = frequency index doc p) → q.counted = [p] → R q tree)
    (combine : ∀ op args weights trees, (∀ q ∈ args, Proper q) → op.isPositional = false →
      op ≠ .score → model.supports op = true →
      List.Forall₂ (fun f t => R f.item t) (scoredArgs op args weights) trees →
      R (Query.apply op args weights)
        (.combine op trees ((scoredArgs op args weights).map Argument.weight) none))
    {q : Query α} (proper : Proper q) {qtf : Nat} {tree : ScoringTree α}
    (built : q.build index model qtf = .ok tree) : R q tree := by
  let R' (q : Query α) (_ : Nat) (t : ScoringTree α) : Prop := Proper q → R q t
  refine Query.of_build (R := R') ?leaf ?combine q built proper
  case leaf =>
    intro q p qtf list found _ evaluated proper
    obtain ⟨rank_eq, counted_eq⟩ := proper.rank_of_scoredPart? index model found
    exact leaf q p qtf _ (Except.map_eq_ok_iff.2 ⟨list, evaluated, rfl⟩) rank_eq counted_eq
  case combine =>
    intro op args weights qtf trees structural not_score supported related proper
    obtain ⟨-, args_proper⟩ := proper.of_apply
    refine combine op args weights trees args_proper structural not_score supported ?_
    exact related.imp fun f t both => both.2 (args_proper f.item both.1)

/-- A scoring tree matches the documents of positive rank. -/
theorem matchesDoc_iff (posted : index.WellPosted) {q : Query α} (proper : Proper q)
    {qtf : Nat} {tree : ScoringTree α} (built : q.build index model qtf = .ok tree) :
    tree.matchesDoc model doc = true ↔ 0 < rank index model doc q := by
  refine of_build ?leaf ?combine proper built
  case leaf =>
    intro q p qtf tree built rank_eq _
    rw [rank_eq]
    exact matchesDoc_scoringLeaf posted built
  case combine =>
    intro op args weights trees args_proper structural not_score _ ranked
    rw [rank_structural structural not_score, ← combinedRank_scoredArgs args_proper]
    exact matchesDoc_combine_iff (List.forall₂_map_right_iff.2 ranked.flip)

/-- Where the counts of its positional parts fit into a machine word, the ranked Boolean model
scores a document by its rank. -/
theorem rankedAt [Scalar.ComparesCounts α] (posted : index.WellPosted) {q : Query α}
    (proper : Proper q) {qtf : Nat} {tree : ScoringTree α}
    (built : q.build index .rankedBoolean qtf = .ok tree)
    (small : ∀ p ∈ q.counted, frequency index doc p < Scalar.countBound) :
    RankedAt index doc tree (rank index (.rankedBoolean : RetrievalModel α) doc q) := by
  revert small
  refine of_build ?leaf ?combine proper built
  case leaf =>
    intro q p qtf tree built rank_eq counted_eq small
    rw [rank_eq]
    rw [counted_eq] at small
    exact ⟨matchesDoc_scoringLeaf posted built, small p List.mem_cons_self,
      fun _ => scoreAt_scoringLeaf built⟩
  case combine =>
    intro op args weights trees args_proper structural not_score supported ranked small
    rw [rank_structural structural not_score, ← combinedRank_scoredArgs args_proper]
    have small_arg (f : Argument α (Query α)) (hf : f ∈ scoredArgs op args weights) :
        ∀ p ∈ f.item.counted, frequency index doc p < Scalar.countBound := by
      intro p hp
      refine small p ?_
      rw [counted_structural structural not_score]
      exact mem_countedAll.2 ⟨f.item, (mem_of_scoredArg hf).1, hp⟩
    have listed := (List.forall₂_and_left _ trees).2 ⟨small_arg, ranked⟩
    have args_ranked := listed.imp fun f t both => both.2 both.1
    exact RankedAt.combine supported not_score (List.forall₂_map_right_iff.2 args_ranked.flip)

end Proper

end Query

end RankedRetrieval

import RankedRetrieval.Proofs.Scoring.Calls
import RankedRetrieval.Proofs.Scoring.Growth
import RankedRetrieval.Proofs.Scoring.Scores

/-!
# The states of a run

A result is found by asking a scoring tree for its matches one after another.  What is known of the
tree that was built holds of every state in which it is asked for a score, and of all trees within.

## Main Results

* `Query.exists_calls_of_mem` — every entry of a run is scored in a state that calls lead to
* `ScoringTree.settled_of_within_settle` — what is within a settled tree is settled
* `ScoringTree.Settled.scoresOrDefaults_eq` — the arguments are scored for the document of the
  combination, by default or not
* `ScoringTree.GrownFrom.of_within_later` — what is within a later state of a tree has grown from
  the query, but for the positions of its cursors

## Design Notes

Only smoothing is looked at here.  A combination settles all of its arguments then, be they needed
or not, which is what makes the trees within a settled tree settled.
-/

namespace RankedRetrieval

variable {α : Type}

/-! ### Entries -/

namespace Query

open ScoringTree

variable [Scalar α] {index : Index} {model : RetrievalModel α}

/-- Every entry of a run is scored in a state that some calls lead to. -/
theorem exists_calls_of_mem {fuel : Nat} {t : ScoringTree α} {entries : List (ScoredDocument α)}
    (run : scoreMatches index model fuel t = .ok entries) {e : ScoredDocument α}
    (member : e ∈ entries) : ∃ calls, (after model (calls ++ [.hasMatch]) t).current? = some e.doc ∧
      score index model (after model (calls ++ [.hasMatch]) t) = .ok e.score := by
  induction fuel generalizing t entries with
  | zero =>
    rw [scoreMatches, Except.ok.injEq] at run
    subst run
    cases member
  | succ fuel ih =>
    rw [scoreMatches] at run
    cases at_doc : (t.settle model).current? with
    | none =>
      simp only [at_doc, Except.ok.injEq] at run
      subst run
      cases member
    | some doc =>
      cases scored : score index model (t.settle model) with
      | error e => simp [at_doc, scored] at run
      | ok s =>
        simp only [at_doc, scored] at run
        obtain ⟨others, others_run, rfl⟩ := Except.map_eq_ok_iff.1 run
        rcases List.mem_cons.1 member with rfl | later
        · exact ⟨[], at_doc, scored⟩
        · -- the other entries are those of the tree that has passed this one
          obtain ⟨calls, at_later, scored_later⟩ := ih others_run later
          exact ⟨.hasMatch :: .advancePast doc :: calls, at_later, scored_later⟩

theorem exists_calls_of_mem_execute [Numeral α] {q : Query α} {tree : ScoringTree α}
    {result : ScoreList α} (built : q.scoringTree index model = .ok tree)
    (run : q.execute index model = .ok result) {e : ScoredDocument α}
    (member : e ∈ result.entries) :
    ∃ calls, (after model (calls ++ [.hasMatch]) tree).current? = some e.doc ∧
      score index model (after model (calls ++ [.hasMatch]) tree) = .ok e.score := by
  rw [execute, built] at run
  split at run
  · obtain rfl := Except.ok.inj run
    cases member
  · obtain ⟨entries, entries_run, rfl⟩ := Except.map_eq_ok_iff.1 run
    exact exists_calls_of_mem entries_run member

end Query

namespace ScoringTree

/-! ### Trees within a state -/

section Settled

variable {model : RetrievalModel α} {bound doc : DocId} {t part : ScoringTree α}

/-- Under smoothing, what is within a settled tree is settled. -/
theorem settled_of_within_settleWithin (smooths : model.smoothsMissing = true) {depth : Nat}
    (deep_enough : t.depth ≤ depth) (positioned : Positioned model bound t)
    (within : part.Within (settleWithin model depth t)) : Settled model bound part := by
  induction depth generalizing t with
  | zero =>
    cases positioned with
    | leaf at_bound =>
      rw [settleWithin, within_leaf_iff] at within
      rw [within]
      exact .leaf at_bound
    | any | all => simp [ScoringTree.depth] at deep_enough
  | succ depth ih =>
    have settled := settleWithin_settled deep_enough positioned
    cases positioned with
    | leaf at_bound =>
      rw [settleWithin, within_leaf_iff] at within
      rw [within]
      exact .leaf at_bound
    | @any _ op args weights current one_suffices args_at =>
      rw [settleWithin, one_suffices] at within settled
      rcases within_combine_iff.1 within with rfl | ⟨arg, member, within_arg⟩
      · exact settled
      · obtain ⟨u, hu, rfl⟩ := List.mem_map.1 member
        have shallow : u.depth ≤ depth :=
          Nat.le_trans (depth_le_depthAll hu) (Nat.le_of_succ_le_succ deep_enough)
        exact ih shallow (args_at u hu) within_arg
    | all asks => simp [asksForAll, smooths] at asks

theorem settled_of_within_settle (smooths : model.smoothsMissing = true)
    (positioned : Positioned model bound t) (within : part.Within (t.settle model)) :
    Settled model bound part :=
  settled_of_within_settleWithin smooths (Nat.le_refl _) positioned within

variable [Scalar α] {index : Index} {op : Operator} {args : List (ScoringTree α)}
  {weights : List α}

/-- The arguments of a settled combination are scored for its document, by default or not. -/
theorem Settled.scoresOrDefaults_eq (smooths : model.smoothsMissing = true)
    (settled : Settled model bound (combine op args weights (some doc))) :
    scoresOrDefaults index model doc args = scoresWithDefaults index model doc args := by
  have found := (settled.current?_eq_some_iff doc).1 rfl
  generalize at_doc : some doc = current at settled
  cases settled with
  | any _ args_settled =>
    have least := List.min?_eq_some_iff.1 at_doc.symm
    refine ScoringTree.scoresOrDefaults_eq ?_ ?_
    · intro t ht
      refine (args_settled t ht).isAt_eq_matchesDoc found.reached ?_
      intro other at_other
      exact least.2 other (List.mem_filterMap.2 ⟨t, ht, at_other⟩)
    · intro t ht at_t
      exact score_eq_scoreAt (args_settled t ht) (isAt_iff.1 at_t)
  | agreed asks => simp [asksForAll, smooths] at asks
  | exhausted => cases at_doc

end Settled

/-! ### Rewound trees -/

theorem rewindAll_eq_map (ts : List (ScoringTree α)) : rewindAll ts = ts.map rewind := by
  induction ts with
  | nil => rfl
  | cons t ts ih => rw [rewindAll, ih, List.map_cons]

/-- What is within a tree is within the rewound tree when it is rewound. -/
theorem Within.rewind {part t : ScoringTree α} (within : part.Within t) :
    part.rewind.Within t.rewind := by
  induction within with
  | self => exact .self _
  | arg member _ ih =>
    rw [ScoringTree.rewind, rewindAll_eq_map]
    exact .arg (List.mem_map_of_mem member) ih

namespace GrownFrom

variable [Scalar α] [Numeral α] {drafts : List Draft} {model : RetrievalModel α} {q : Query α}
  {t later part : ScoringTree α}

theorem rewind_eq (grown : t.GrownFrom drafts model q) : t.rewind = t := by
  induction grown with
  | leaf => rfl
  | combine _ _ _ _ _ ih =>
    rw [rewind, rewindAll_eq_map, List.map_congr_left ih, List.map_id']

/-- What is within a later state of a tree has grown from the query, once it is rewound. -/
theorem of_within_later (grown : t.GrownFrom drafts model q) (moved : Moved t later)
    (within : part.Within later) : part.rewind.GrownFrom drafts model q := by
  have origin := within.rewind
  rw [moved.rewind_eq, grown.rewind_eq] at origin
  exact grown.of_within origin

end GrownFrom

end ScoringTree

end RankedRetrieval

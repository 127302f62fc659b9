import RankedRetrieval.Proofs.Scoring.NextMatch

/-!
# Settling of scoring trees

Settling a positioned tree moves it to its next match.

## Main Definitions

* `ScoringTree.Settles` — what is asked of a function that settles arguments
* `ScoringTree.InRound` — what each round of a combination keeps

## Main Results

* `ScoringTree.InRound.agree_settled` — the rounds of a combination end in an agreement or in
  exhaustion
* `ScoringTree.settle_settled` — settling keeps the bound and finds the match

## Design Notes

The rounds carry two bounds.  The combination is asked for its matches from the first one on;
the arguments have gone ahead to the second one, and the combination has no match in between.
A round that ends in no agreement moves an argument that is behind, so the postings that are
ahead of the arguments grow fewer.
-/

namespace RankedRetrieval.ScoringTree

variable {α : Type} {model : RetrievalModel α}

/-! ### The latest of some documents -/

theorem foldl_max_spec (docs : List DocId) (start : DocId) :
    start ≤ docs.foldl max start ∧ (∀ doc ∈ docs, doc ≤ docs.foldl max start) ∧
      (docs.foldl max start = start ∨ docs.foldl max start ∈ docs) := by
  induction docs generalizing start with
  | nil => exact ⟨Nat.le_refl _, by simp, .inl rfl⟩
  | cons doc docs ih =>
    obtain ⟨ge_start, ge_docs, found⟩ := ih (max start doc)
    rw [List.foldl_cons]
    refine ⟨Nat.le_trans (le_max_left _ _) ge_start, ?_, ?_⟩
    · intro other member
      rcases List.mem_cons.1 member with rfl | later
      · exact Nat.le_trans (le_max_right _ _) ge_start
      · exact ge_docs other later
    · rcases found with found | found
      · rcases max_choice start doc with least | greatest
        · exact .inl (found.trans least)
        · rw [found, greatest]
          exact .inr List.mem_cons_self
      · exact .inr (List.mem_cons_of_mem doc found)

theorem le_latest {docs : List DocId} {doc : DocId} (member : doc ∈ docs) : doc ≤ latest docs :=
  (foldl_max_spec docs 0).2.1 doc member

theorem latest_mem {docs : List DocId} (nonempty : docs ≠ []) : latest docs ∈ docs := by
  rcases (foldl_max_spec docs 0).2.2 with least | found
  · obtain ⟨doc, member⟩ := List.exists_mem_of_ne_nil docs nonempty
    have zero : doc ≤ 0 := Nat.le_trans (le_latest member) (Nat.le_of_eq least)
    rw [latest, least, ← Nat.le_zero.1 zero]
    exact member
  · exact found

/-! ### One round -/

/-- What is asked of a function that settles the arguments of a combination. -/
structure Settles (model : RetrievalModel α) (settleArg : ScoringTree α → ScoringTree α)
    (ts : List (ScoringTree α)) : Prop where
  /-- It settles positioned trees, as long as they are no deeper than the arguments. -/
  settled : ∀ t, t.depth ≤ depthAll ts → ∀ bound, Positioned model bound t →
    Settled model bound (settleArg t)
  /-- It moves cursors only. -/
  moved : ∀ t, Moved t (settleArg t)

theorem depth_le_depthAll {ts : List (ScoringTree α)} {t : ScoringTree α} (member : t ∈ ts) :
    t.depth ≤ depthAll ts := by
  induction ts with
  | nil => simp at member
  | cons u us ih =>
    rcases List.mem_cons.1 member with rfl | later
    · exact le_max_left _ _
    · exact Nat.le_trans (ih later) (le_max_right _ _)

/-- Moving all trees does not change what is asked for them. -/
theorem Settles.of_moved {settleArg : ScoringTree α → ScoringTree α}
    {ts later : List (ScoringTree α)} (settles : Settles model settleArg ts)
    (moved : MovedAll ts later) : Settles model settleArg later where
  settled t shallow := settles.settled t (by rwa [← moved.depthAll_eq])
  moved := settles.moved

theorem movedAll_survey {settleArg : ScoringTree α → ScoringTree α}
    (moved : ∀ t, Moved t (settleArg t)) (ts : List (ScoringTree α)) :
    MovedAll ts (survey settleArg ts).1 := by
  induction ts with
  | nil => exact MovedAll.refl []
  | cons t ts ih =>
    unfold survey
    dsimp only
    split
    · exact MovedAll.cons (moved t) (MovedAll.refl ts)
    · exact MovedAll.cons (moved t) ih

/-- A survey that finds a match of every argument has settled all of them. -/
theorem survey_eq_some {settleArg : ScoringTree α → ScoringTree α}
    {ts settled : List (ScoringTree α)} {docs : List DocId}
    (found : survey settleArg ts = (settled, some docs)) :
    settled = ts.map settleArg ∧ settled.map current? = docs.map some := by
  induction ts generalizing settled docs with
  | nil =>
    obtain ⟨rfl, rfl⟩ : [] = settled ∧ [] = docs := by simpa [survey] using found
    exact ⟨rfl, rfl⟩
  | cons t ts ih =>
    unfold survey at found
    dsimp only at found
    split at found
    · simp at found
    · rename_i doc at_doc
      obtain ⟨rfl, others⟩ := Prod.mk.inj found
      obtain ⟨rest, hrest, rfl⟩ := Option.map_eq_some_iff.1 others
      obtain ⟨mapped, currents⟩ := ih (Prod.ext rfl hrest)
      rw [List.map_cons, List.map_cons, List.map_cons, at_doc, ← mapped, currents]
      exact ⟨rfl, rfl⟩

/-- A survey that stops has met an argument without a match; it has settled arguments or left
them alone. -/
theorem survey_eq_none {settleArg : ScoringTree α → ScoringTree α}
    {ts settled : List (ScoringTree α)} (stopped : survey settleArg ts = (settled, none)) :
    (∃ t ∈ ts, (settleArg t).current? = none) ∧
      ∀ u ∈ settled, ∃ t ∈ ts, u = t ∨ u = settleArg t := by
  induction ts generalizing settled with
  | nil => simp [survey] at stopped
  | cons t ts ih =>
    unfold survey at stopped
    dsimp only at stopped
    split at stopped
    · rename_i exhausted
      obtain ⟨rfl, -⟩ := Prod.mk.inj stopped
      refine ⟨⟨t, List.mem_cons_self, exhausted⟩, fun u member => ?_⟩
      rcases List.mem_cons.1 member with rfl | later
      · exact ⟨t, List.mem_cons_self, .inr rfl⟩
      · exact ⟨u, List.mem_cons_of_mem t later, .inl rfl⟩
    · obtain ⟨rfl, others⟩ := Prod.mk.inj stopped
      obtain ⟨⟨v, hv, exhausted⟩, origins⟩ := ih (Prod.ext rfl (Option.map_eq_none_iff.1 others))
      refine ⟨⟨v, List.mem_cons_of_mem t hv, exhausted⟩, fun u member => ?_⟩
      rcases List.mem_cons.1 member with rfl | later
      · exact ⟨t, List.mem_cons_self, .inr rfl⟩
      · obtain ⟨w, hw, origin⟩ := origins u later
        exact ⟨w, List.mem_cons_of_mem t hw, origin⟩

/-! ### What a survey finds -/

section Found

variable {reached doc : DocId} {us : List (ScoringTree α)} {docs : List DocId}

theorem exists_mem_docs (currents : us.map current? = docs.map some) {u : ScoringTree α}
    (hu : u ∈ us) : ∃ doc ∈ docs, u.current? = some doc := by
  have member := List.mem_map_of_mem (f := current?) hu
  rw [currents] at member
  obtain ⟨doc, hdoc, same⟩ := List.mem_map.1 member
  exact ⟨doc, hdoc, same.symm⟩

theorem exists_mem_trees (currents : us.map current? = docs.map some) (hdoc : doc ∈ docs) :
    ∃ u ∈ us, u.current? = some doc := by
  have member := List.mem_map_of_mem (f := some) hdoc
  rw [← currents] at member
  exact List.mem_map.1 member

/-- Of the trees that move to the latest document one that is before it has less ahead. -/
theorem remainingAll_catchUp_lt (settled_at : ∀ u ∈ us, Settled model reached u)
    (currents : us.map current? = docs.map some) (hdoc : doc ∈ docs)
    (behind : doc ≠ latest docs) :
    remainingAll (us.map fun u => u.advanceTo (latest docs)) < remainingAll us := by
  obtain ⟨u, hu, at_doc⟩ := exists_mem_trees currents hdoc
  exact remainingAll_map_lt (fun v _ => moved_advanceTo (latest docs) v) hu
    ((settled_at u hu).remaining_advanceTo_lt at_doc
      (Nat.lt_of_le_of_ne (le_latest hdoc) behind))

/-- A match of all trees is not before the latest document: the tree that is there has no earlier
one. -/
theorem latest_le_of_allMatch (nonempty : us ≠ [])
    (settled_at : ∀ u ∈ us, Settled model reached u)
    (currents : us.map current? = docs.map some) (reached_le : reached ≤ doc)
    (matched : allMatch model doc us = true) : latest docs ≤ doc := by
  have docs_nonempty : docs ≠ [] := by
    rintro rfl
    simp at currents
    exact nonempty currents
  obtain ⟨u, hu, at_latest⟩ := exists_mem_trees currents (latest_mem docs_nonempty)
  have found := ((settled_at u hu).current?_eq_some_iff _).1 at_latest
  exact found.least doc reached_le (allMatch_iff.1 matched u hu)

end Found

/-! ### All rounds -/

section Rounds

variable {settleArg : ScoringTree α → ScoringTree α} {op : Operator} {weights : List α}

/-- What each round keeps: the arguments have gone ahead to a bound of their own, and not all of
them match a document in between. -/
structure InRound (model : RetrievalModel α) (bound reached : DocId) (ts : List (ScoringTree α)) :
    Prop where
  /-- No argument has skipped a match from its own bound on. -/
  args_at : ∀ t ∈ ts, Positioned model reached t
  /-- Nothing is lost between the bounds. -/
  none_between : ∀ doc, bound ≤ doc → allMatch model doc ts = true → reached ≤ doc
  /-- The bound of the arguments is the later one. -/
  later : bound ≤ reached

namespace InRound

variable {bound reached : DocId} {ts settled : List (ScoringTree α)} {docs : List DocId}

theorem settles_mem (kept : InRound model bound reached ts) (settles : Settles model settleArg ts)
    {t : ScoringTree α} (member : t ∈ ts) : Settled model reached (settleArg t) :=
  settles.settled t (depth_le_depthAll member) reached (kept.args_at t member)

/-- Moving the arguments to a later bound is harmless when not all of them match before it. -/
theorem of_moved (kept : InRound model bound reached ts) {next : DocId}
    {later : List (ScoringTree α)} (moved : MovedAll ts later) (reached_le : reached ≤ next)
    (args_at : ∀ t ∈ later, Positioned model next t)
    (none_between : ∀ doc, reached ≤ doc → allMatch model doc ts = true → next ≤ doc) :
    InRound model bound next later where
  args_at := args_at
  none_between doc hb matched := by
    rw [moved.allMatch_eq] at matched
    exact none_between doc (kept.none_between doc hb matched) matched
  later := Nat.le_trans kept.later reached_le

/-- Settling the arguments leaves them where they have no match behind them. -/
theorem map_settle (kept : InRound model bound reached ts) (settles : Settles model settleArg ts) :
    InRound model bound reached (ts.map settleArg) :=
  kept.of_moved (MovedAll.map settleArg ts fun t _ => settles.moved t) (Nat.le_refl _)
    (List.forall_mem_map.2 fun _ ht => (kept.settles_mem settles ht).positioned)
    fun _ reached_le _ => reached_le

/-- Settled arguments may all move to the latest of their matches. -/
theorem catchUp (kept : InRound model bound reached ts) (nonempty : ts ≠ [])
    (settled_at : ∀ t ∈ ts, Settled model reached t)
    (currents : ts.map current? = docs.map some) :
    InRound model bound (max reached (latest docs)) (ts.map fun t => t.advanceTo (latest docs)) :=
  kept.of_moved (movedAll_advanceTo (latest docs) ts) (le_max_left _ _)
    (List.forall_mem_map.2 fun t ht => (kept.args_at t ht).advanceTo (latest docs))
    fun _ reached_le matched =>
      max_le reached_le
        (latest_le_of_allMatch nonempty settled_at currents reached_le matched)

/-- A survey that stops leaves the combination without a further match. -/
theorem settled_of_survey_eq_none (kept : InRound model bound reached ts)
    (asks : asksForAll model op = true) (settles : Settles model settleArg ts)
    (stopped : survey settleArg ts = (settled, none)) :
    Settled model bound (combine op settled weights none) := by
  have moved : MovedAll ts settled := by
    have surveyed := movedAll_survey settles.moved ts
    rwa [stopped] at surveyed
  obtain ⟨⟨t, member, exhausted⟩, origins⟩ := survey_eq_none stopped
  have after : InRound model bound reached settled := by
    refine kept.of_moved moved (Nat.le_refl _) (fun u hu => ?_) fun _ reached_le _ => reached_le
    obtain ⟨v, hv, rfl | rfl⟩ := origins u hu
    · exact kept.args_at u hv
    · exact (kept.settles_mem settles hv).positioned
  refine .exhausted (.all asks after.args_at after.none_between after.later) fun doc hb => ?_
  -- a match of the combination would be one of the argument that has none left
  rw [← Bool.not_eq_true]
  intro matched
  have all_match := ((matchesDoc_combine_all asks).1 matched).2
  rw [moved.allMatch_eq] at all_match
  have none_left := (kept.settles_mem settles member).matchesDoc_eq_false exhausted
    (kept.none_between doc hb all_match)
  rw [(settles.moved t).matchesDoc_eq, allMatch_iff.1 all_match t member] at none_left
  simp at none_left

/-- Settled arguments that are at one document are at the next match of the combination. -/
theorem settled_of_agreed (kept : InRound model bound reached ts)
    (asks : asksForAll model op = true) (nonempty : ts ≠ [])
    (settled_at : ∀ t ∈ ts, Settled model reached t)
    (currents : ts.map current? = docs.map some) {doc : DocId} (equal : ∀ d ∈ docs, d = doc) :
    Settled model bound (combine op ts weights (some doc)) := by
  refine .agreed asks nonempty settled_at (fun t ht => ?_) kept.none_between kept.later
  obtain ⟨d, hd, at_d⟩ := exists_mem_docs currents ht
  rw [at_d, equal d hd]

/-- The rounds of a combination that asks for all arguments settle it. -/
theorem agree_settled {rounds : Nat} (kept : InRound model bound reached ts)
    (asks : asksForAll model op = true) (nonempty : ts ≠ [])
    (settles : Settles model settleArg ts) (enough : remainingAll ts < rounds) :
    Settled model bound
      (combine op (agree settleArg rounds ts).1 weights (agree settleArg rounds ts).2) := by
  induction rounds generalizing reached ts with
  | zero => exact absurd enough (Nat.not_lt_zero _)
  | succ rounds ih =>
    unfold agree
    cases surveyed : survey settleArg ts with
    | mk settled docs? =>
      cases docs? with
      | none => exact kept.settled_of_survey_eq_none asks settles surveyed
      | some docs =>
        obtain ⟨rfl, currents⟩ := survey_eq_some surveyed
        have moved := MovedAll.map settleArg ts fun t _ => settles.moved t
        have after := kept.map_settle settles
        have settled_at : ∀ u ∈ ts.map settleArg, Settled model reached u :=
          List.forall_mem_map.2 fun _ ht => kept.settles_mem settles ht
        have settled_nonempty : ts.map settleArg ≠ [] := by simpa using nonempty
        dsimp only
        split
        · rename_i equal
          exact after.settled_of_agreed asks settled_nonempty settled_at currents
            fun d hd => of_decide_eq_true (List.all_eq_true.1 equal d hd)
        · -- the next round has fewer postings ahead, since the argument at `doc` moves
          rename_i disagree
          obtain ⟨doc, hdoc, behind⟩ : ∃ doc ∈ docs, doc ≠ latest docs := by
            simpa using disagree
          have fewer := remainingAll_catchUp_lt settled_at currents hdoc behind
          exact ih (after.catchUp settled_nonempty settled_at currents)
            (by simpa using settled_nonempty)
            (settles.of_moved (moved.trans (movedAll_advanceTo _ _)))
            (Nat.lt_of_lt_of_le (Nat.lt_of_lt_of_le fewer moved.remaining_le)
              (Nat.le_of_lt_succ enough))

end InRound

theorem movedAll_agree (moved : ∀ t, Moved t (settleArg t)) (rounds : Nat)
    (ts : List (ScoringTree α)) : MovedAll ts (agree settleArg rounds ts).1 := by
  induction rounds generalizing ts with
  | zero => exact MovedAll.refl ts
  | succ rounds ih =>
    have surveyed := movedAll_survey moved ts
    unfold agree
    split
    · rename_i stopped
      rwa [stopped] at surveyed
    · rename_i found
      rw [found] at surveyed
      split
      · exact surveyed
      · exact surveyed.trans ((movedAll_advanceTo _ _).trans (ih _))

end Rounds

/-! ### Settling trees -/

/-- Settling moves cursors only. -/
theorem moved_settleWithin (depth : Nat) (t : ScoringTree α) :
    Moved t (settleWithin model depth t) := by
  induction depth generalizing t with
  | zero => cases t <;> exact Moved.refl _
  | succ depth ih =>
    cases t with
    | leaf cursor qtf => exact Moved.refl _
    | combine op args weights current =>
      cases asks : asksForAll model op with
      | false =>
        simp only [settleWithin, asks, settleOnLeast]
        exact (MovedAll.map _ args fun t _ => ih t).combine op weights current _
      | true =>
        simp only [settleWithin, asks, if_true, settleOnAll]
        refine MovedAll.combine ?_ op weights current _
        split
        · exact MovedAll.refl args
        · exact movedAll_agree ih _ args

theorem settleWithin_settled {depth : Nat} {bound : DocId} {t : ScoringTree α}
    (deep_enough : t.depth ≤ depth) (positioned : Positioned model bound t) :
    Settled model bound (settleWithin model depth t) := by
  induction depth generalizing t bound with
  | zero =>
    cases positioned with
    | leaf at_bound => exact .leaf at_bound
    | any | all => simp [ScoringTree.depth] at deep_enough
  | succ depth ih =>
    have args_shallow {args : List (ScoringTree α)} (deep_enough : depthAll args + 1 ≤ depth + 1) :
        Settles model (settleWithin model depth) args :=
      ⟨fun _ shallow _ at_bound =>
        ih (Nat.le_trans shallow (Nat.le_of_succ_le_succ deep_enough)) at_bound,
        moved_settleWithin depth⟩
    cases positioned with
    | leaf at_bound => exact .leaf at_bound
    | @any _ op args weights current one_suffices args_at =>
      have settles := args_shallow deep_enough
      simp only [settleWithin, one_suffices, settleOnLeast]
      exact .any one_suffices (List.forall_mem_map.2 fun t ht =>
        settles.settled t (depth_le_depthAll ht) bound (args_at t ht))
    | @all _ reached op args weights current asks args_at none_between later =>
      have settles := args_shallow deep_enough
      simp only [settleWithin, asks, if_true, settleOnAll]
      split
      · rename_i no_args
        refine .exhausted (.all asks args_at none_between later) fun doc _ => ?_
        simp only [matchesDoc, asks, if_true, no_args, Bool.not_true, Bool.false_and]
      · rename_i some_args
        exact InRound.agree_settled ⟨args_at, none_between, later⟩ asks (by simpa using some_args)
          settles (Nat.lt_succ_self _)

/-- Settling a positioned tree finds its next match. -/
theorem settle_settled {bound : DocId} {t : ScoringTree α}
    (positioned : Positioned model bound t) : Settled model bound (t.settle model) :=
  settleWithin_settled (Nat.le_refl _) positioned

theorem moved_settle (t : ScoringTree α) : Moved t (t.settle model) :=
  moved_settleWithin t.depth t

end RankedRetrieval.ScoringTree

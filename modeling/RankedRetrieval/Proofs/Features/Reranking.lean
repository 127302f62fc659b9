import RankedRetrieval.Features.Reranking
import RankedRetrieval.Proofs.Ranking.Order

/-!
# Rankings by predicted scores

The rankings that predicted scores give hold the documents of the results that the scores were
predicted for.

## Main Definitions

* `Reranking.ids` — the queries and documents of results, in the order of their lines
* `Reranking.Reranked` — results that are ranked anew by scores of their lines

## Main Results

* `Reranking.collect_ids` — the lines of results are gathered query by query
* `Reranking.reranked_of_rankings` — one score for each line gives the results ranked anew

## Design Notes

**The lines of a query stand together.**  So the ranking of a query is begun by its first line,
grows at the end of the rankings while its lines last, and is not touched again, because no
later query has its number.
-/

namespace RankedRetrieval

/-- A list whose entries have other scores, in the order of the entries. -/
def ScoreList.rescore {α : Type} (l : ScoreList α) (scores : List α) : ScoreList α :=
  ⟨List.zipWith (fun e score => { e with score }) l.entries scores⟩

namespace Reranking

/-! ### Lines of results -/

section Lines

variable {α : Type} {index : Index} {qid : String} {entries : List (ScoredDocument α)}

/-- The queries and documents of results, in the order in which their lines are written. -/
def ids (results : List (String × ScoreList α)) : List (String × String) :=
  results.flatMap fun r => r.2.entries.map fun e => (r.1, e.externalId)

theorem ids_cons (qid : String) (l : ScoreList α) (results : List (String × ScoreList α)) :
    ids ((qid, l) :: results) =
      (l.entries.map fun e => (qid, e.externalId)) ++ ids results :=
  List.flatMap_cons

/-- The first line of a query begins its ranking. -/
theorem addTo_of_fresh {lists : List (String × ScoreList α)} (fresh : qid ∉ lists.map Prod.fst)
    (doc : DocId) (externalId : String) (score : α) :
    addTo qid doc externalId score lists = lists ++ [(qid, ⟨[⟨doc, externalId, score⟩]⟩)] := by
  induction lists with
  | nil => rfl
  | cons r lists ih =>
    obtain ⟨different, others⟩ := List.ne_and_not_mem_of_not_mem_cons fresh
    rw [addTo, if_neg (Ne.symm different), ih others, List.cons_append]

/-- A line of the query whose ranking is the last one goes to the end of that ranking. -/
theorem addTo_last {lists : List (String × ScoreList α)} (fresh : qid ∉ lists.map Prod.fst)
    (l : ScoreList α) (doc : DocId) (externalId : String) (score : α) :
    addTo qid doc externalId score (lists ++ [(qid, l)]) =
      lists ++ [(qid, l.add doc externalId score)] := by
  induction lists with
  | nil => rw [List.nil_append, addTo, if_pos rfl, List.nil_append]
  | cons r lists ih =>
    obtain ⟨different, others⟩ := List.ne_and_not_mem_of_not_mem_cons fresh
    rw [List.cons_append, addTo, if_neg (Ne.symm different), ih others, List.cons_append]

/-- The lines of a query whose ranking has been begun are added to it. -/
theorem collect_growing {lists : List (String × ScoreList α)} (fresh : qid ∉ lists.map Prod.fst)
    (found : ∀ e ∈ entries, index.internalId? e.externalId = some e.doc) {own : List α}
    (one_each : own.length = entries.length) (begun : List (ScoredDocument α))
    (more : List ((String × String) × α)) :
    collect index (lists ++ [(qid, ⟨begun⟩)])
        ((entries.map fun e => (qid, e.externalId)).zip own ++ more) =
      collect index (lists ++ [(qid, ⟨begun ++ ((ScoreList.mk entries).rescore own).entries⟩)])
        more := by
  induction entries generalizing own begun with
  | nil => simp [ScoreList.rescore]
  | cons e entries ih =>
    obtain _ | ⟨score, own⟩ := own
    · simp at one_each
    obtain ⟨head, tail⟩ := List.forall_mem_cons.1 found
    rw [List.map_cons, List.zip_cons_cons, List.cons_append, collect, head]
    dsimp only
    rw [addTo_last fresh, ScoreList.add, ih tail (Nat.succ.inj one_each)]
    simp [ScoreList.rescore]

/-- The lines of a query that has some give it a ranking behind the others. -/
theorem collect_block {lists : List (String × ScoreList α)} (fresh : qid ∉ lists.map Prod.fst)
    {l : ScoreList α} (answered : l.entries ≠ [])
    (found : ∀ e ∈ l.entries, index.internalId? e.externalId = some e.doc) {own : List α}
    (one_each : own.length = l.entries.length) (more : List ((String × String) × α)) :
    collect index lists ((l.entries.map fun e => (qid, e.externalId)).zip own ++ more) =
      collect index (lists ++ [(qid, l.rescore own)]) more := by
  obtain ⟨_ | ⟨e, entries⟩⟩ := l
  · exact absurd rfl answered
  obtain _ | ⟨score, own⟩ := own
  · simp at one_each
  obtain ⟨head, tail⟩ := List.forall_mem_cons.1 found
  dsimp only
  rw [List.map_cons, List.zip_cons_cons, List.cons_append, collect, head]
  dsimp only
  rw [addTo_of_fresh fresh, collect_growing fresh tail (Nat.succ.inj one_each)]
  rfl

end Lines

/-! ### Results that are ranked anew -/

variable {index : Index} {firsts : List (String × ScoreList Number)} {scores : List Number}

/-- Results that are ranked anew by scores of their lines: every query that has results keeps
its place and its documents, each document has the score of its own line, and the documents are
in order. -/
inductive Reranked :
    List (String × ScoreList Number) → List Number → List (String × ScoreList Number) → Prop where
  /-- Without results there is nothing to rank. -/
  | nil : Reranked [] [] []
  /-- A query without results has no lines and no ranking. -/
  | unanswered {qid : String} {first : ScoreList Number}
      {firsts finals : List (String × ScoreList Number)} {scores : List Number}
      (nothing : first.entries = []) (others : Reranked firsts scores finals) :
      Reranked ((qid, first) :: firsts) scores finals
  /-- A query with results has the scores of its own lines, which come before those of the
  queries behind it. -/
  | answered {qid : String} {first final : ScoreList Number}
      {firsts finals : List (String × ScoreList Number)} {own scores : List Number}
      (answered : first.entries ≠ []) (one_each : own.length = first.entries.length)
      (kept : final.entries.Perm (first.rescore own).entries)
      (ordered : final.entries.Pairwise ScoreList.Before)
      (others : Reranked firsts scores finals) :
      Reranked ((qid, first) :: firsts) (own ++ scores) ((qid, final) :: finals)

/-- Of a list that can be reported as a whole all entries are reported. -/
theorem rank_eq_sort {l : ScoreList Number} (short : l.entries.length ≤ ScoreList.maxResults) :
    l.rank = l.sort := by
  rw [ScoreList.rank, ScoreList.truncate, List.take_of_length_le]
  rw [(ScoreList.perm_sort l).length_eq]
  exact short

/-- The lines of results are gathered query by query behind the rankings that are there, and
what is gathered is the results ranked anew. -/
theorem collect_ids
    (found : ∀ r ∈ firsts, ∀ e ∈ r.2.entries, index.internalId? e.externalId = some e.doc)
    (apart : (firsts.map Prod.fst).Nodup)
    (short : ∀ r ∈ firsts, r.2.entries.length ≤ ScoreList.maxResults)
    (one_each : scores.length = (ids firsts).length) (lists : List (String × ScoreList Number))
    (fresh : ∀ r ∈ firsts, r.1 ∉ lists.map Prod.fst) :
    ∃ gathered, collect index lists ((ids firsts).zip scores) = lists ++ gathered ∧
      Reranked firsts scores (gathered.map fun r => (r.1, r.2.rank)) := by
  induction firsts generalizing scores lists with
  | nil =>
    obtain rfl : scores = [] := List.length_eq_zero_iff.1 one_each
    exact ⟨[], (List.append_nil lists).symm, .nil⟩
  | cons r firsts ih =>
    obtain ⟨qid, first⟩ := r
    obtain ⟨head_found, tail_found⟩ := List.forall_mem_cons.1 found
    obtain ⟨head_short, tail_short⟩ := List.forall_mem_cons.1 short
    obtain ⟨head_fresh, tail_fresh⟩ := List.forall_mem_cons.1 fresh
    obtain ⟨head_apart, tail_apart⟩ := List.nodup_cons.1 apart
    by_cases nothing : first.entries = []
    · have no_lines : ids ((qid, first) :: firsts) = ids firsts := by
        rw [ids_cons, nothing, List.map_nil, List.nil_append]
      rw [no_lines] at one_each ⊢
      obtain ⟨gathered, collected, reranked⟩ :=
        ih tail_found tail_apart tail_short one_each lists tail_fresh
      exact ⟨gathered, collected, .unanswered nothing reranked⟩
    · rw [ids_cons, List.length_append, List.length_map] at one_each
      -- the scores of the lines of the query, and those of the lines behind them
      obtain ⟨own, others, rfl, own_each⟩ :
          ∃ own others, scores = own ++ others ∧ own.length = first.entries.length :=
        ⟨scores.take first.entries.length, scores.drop first.entries.length,
          (List.take_append_drop _ _).symm, by rw [List.length_take]; omega⟩
      have others_each : others.length = (ids firsts).length := by
        rw [List.length_append] at one_each
        omega
      have others_fresh : ∀ r ∈ firsts,
          r.1 ∉ (lists ++ [(qid, first.rescore own)]).map Prod.fst := by
        intro r member
        rw [List.map_append, List.mem_append]
        rintro (before | last)
        · exact tail_fresh r member before
        · have same : r.1 = qid := by simpa using last
          exact head_apart (List.mem_map.2 ⟨r, member, same⟩)
      obtain ⟨gathered, collected, reranked⟩ :=
        ih tail_found tail_apart tail_short others_each _ others_fresh
      refine ⟨(qid, first.rescore own) :: gathered, ?_, ?_⟩
      · rw [ids_cons, List.zip_append (by rw [List.length_map, own_each]),
          collect_block head_fresh nothing head_found own_each, collected, List.append_assoc,
          List.singleton_append]
      · have whole : (first.rescore own).rank = (first.rescore own).sort := by
          refine rank_eq_sort ?_
          rw [ScoreList.rescore, List.length_zipWith, own_each, Nat.min_self]
          exact head_short
        rw [List.map_cons, whole]
        exact .answered nothing own_each (ScoreList.perm_sort _) (ScoreList.pairwise_sort _)
          reranked

/-- One score for each line of results gives the results ranked anew. -/
theorem reranked_of_rankings
    (found : ∀ r ∈ firsts, ∀ e ∈ r.2.entries, index.internalId? e.externalId = some e.doc)
    (apart : (firsts.map Prod.fst).Nodup)
    (short : ∀ r ∈ firsts, r.2.entries.length ≤ ScoreList.maxResults)
    (one_each : scores.length = (ids firsts).length) :
    ∃ finals, rankings? index (ids firsts) scores = some finals ∧
      Reranked firsts scores finals := by
  obtain ⟨gathered, collected, reranked⟩ :=
    collect_ids found apart short one_each [] fun r _ => by simp
  refine ⟨_, ?_, reranked⟩
  rw [rankings?, if_pos one_each.symm, collected, List.nil_append]

end Reranking

end RankedRetrieval

import RankedRetrieval.Proofs.Exact.Least
import RankedRetrieval.Proofs.Ranking.Cleanup
import RankedRetrieval.Proofs.Scoring.FirstArguments
import RankedRetrieval.Proofs.Scoring.FoldedStanding
import RankedRetrieval.Proofs.Scoring.PlainQueries

/-!
# Weighted intersections under the Boolean models

Under the Boolean models a weighted intersection finds and scores documents as one without weights
does, although only the latter folds repeated arguments.

## Main Definitions

* `Query.wandAsAnd` — a query with its weighted intersections made plain ones

## Main Results

* `Query.standing_wandAsAnd` — a query and this one say the same of every document
* `Query.execute_wandAsAnd` — and have the same result

## Design Notes

The two queries need not fold the same arguments, and that at every level: a weighted intersection
folds none, and the texts by which repeats are recognised are different where an argument has a
weighted intersection inside.  An argument that only one query keeps is a repeat in the other one of
an argument that scores the same positional query, in which there is nothing to be replaced.
-/

namespace RankedRetrieval

/-! ### Combinations under the Boolean models -/

namespace Standing

variable {α : Type} [Scalar α] {model : RetrievalModel α} {vs others : List (Standing α)}

/-- Under the Boolean models intersections with and without weights say the same of a document, if
their arguments say the same up to repeats. -/
theorem combine_intersection [Scalar.AbsorbsRepeats α]
    (boolean : model = .unrankedBoolean ∨ model = .rankedBoolean) {op : Operator}
    (intersects : op = .and ∨ op = .wand) (weights other_weights : List α)
    (same : ∀ v, v ∈ vs ↔ v ∈ others)
    (same_least : vs.foldl (fun s v => Scalar.lesser s v.score) Scalar.greatest =
      others.foldl (fun s v => Scalar.lesser s v.score) Scalar.greatest) :
    combine model op weights vs = combine model .and other_weights others := by
  have same_match : combinedMatch model op vs = combinedMatch model .and others := by
    rw [combinedMatch_congr model op same]
    rcases intersects with rfl | rfl <;> rfl
  rw [combine, combine, same_match]
  rcases boolean with rfl | rfl
  · rcases intersects with rfl | rfl <;> rfl
  · have least : (vs.map score).foldl Scalar.lesser Scalar.greatest =
        (others.map score).foldl Scalar.lesser Scalar.greatest := by
      rw [List.foldl_map, List.foldl_map]
      exact same_least
    rcases intersects with rfl | rfl <;> exact congrArg (mk _ · _) least

end Standing

namespace Query

open ScoringTree

/-! ### Weighted intersections made plain -/

section Replacing

variable {α : Type}

mutual
/-- A query with its weighted intersections made intersections without weights. -/
def wandAsAnd : Query α → Query α
  | term stem field => term stem field
  | apply op args weights =>
    if op = .wand then apply .and (wandAsAndAll args) []
    else apply op (wandAsAndAll args) weights

/-- Queries with their weighted intersections made intersections without weights. -/
def wandAsAndAll : List (Query α) → List (Query α)
  | [] => []
  | q :: qs => q.wandAsAnd :: wandAsAndAll qs
end

theorem wandAsAndAll_eq_map (qs : List (Query α)) : wandAsAndAll qs = qs.map wandAsAnd := by
  induction qs with
  | nil => rfl
  | cons q qs ih => rw [wandAsAndAll, ih, List.map_cons]

theorem wandAsAnd_wand (args : List (Query α)) (weights : List α) :
    (apply .wand args weights).wandAsAnd = apply .and (args.map wandAsAnd) [] := by
  rw [wandAsAnd, if_pos rfl, wandAsAndAll_eq_map]

theorem wandAsAnd_apply {op : Operator} (not_wand : op ≠ .wand) (args : List (Query α))
    (weights : List α) :
    (apply op args weights).wandAsAnd = apply op (args.map wandAsAnd) weights := by
  rw [wandAsAnd, if_neg not_wand, wandAsAndAll_eq_map]

/-- Where occurrences are merged there is nothing to be replaced. -/
theorem Merging.wandAsAnd_eq {q : Query α} (merging : q.Merging) : q.wandAsAnd = q := by
  induction merging with
  | term => rfl
  | @apply op args weights positional _ ih =>
    have not_wand : op ≠ .wand := by
      rintro rfl
      cases positional
    have same_args : args.map wandAsAnd = args := by
      rw [List.map_congr_left ih, List.map_id']
    rw [wandAsAnd_apply not_wand, same_args]

/-- Nothing is replaced by what only merges. -/
theorem Merging.of_wandAsAnd {q : Query α} (merging : q.wandAsAnd.Merging) : q.Merging := by
  induction q using induct with
  | term stem field => exact .term
  | apply op args weights ih =>
    by_cases is_wand : op = .wand
    · subst is_wand
      rw [wandAsAnd_wand] at merging
      cases merging.of_apply.1
    · rw [wandAsAnd_apply is_wand] at merging
      obtain ⟨positional, args_merging⟩ := merging.of_apply
      exact .apply positional fun q hq => ih q hq (args_merging _ (List.mem_map_of_mem hq))

theorem scoredPart?_wandAsAnd (q : Query α) :
    q.wandAsAnd.scoredPart? = q.scoredPart?.map wandAsAnd := by
  cases q with
  | term stem field => rfl
  | apply op args weights =>
    by_cases is_wand : op = .wand
    · subst is_wand
      rw [wandAsAnd_wand]
      rfl
    · rw [wandAsAnd_apply is_wand]
      cases op with
      | score => cases args <;> rfl
      | wand => exact absurd rfl is_wand
      | syn | near | window => exact congrArg some (wandAsAnd_apply is_wand args weights).symm
      | or | and | sum | wsum => rfl

/-- What is plain stays so. -/
theorem Plain.wandAsAnd {q : Query α} (plain : Plain q) : Plain q.wandAsAnd := by
  induction plain with
  | term stem_bare field_bare => exact .term stem_bare field_bare
  | @apply op args weights unweighted _ ih =>
    have args_plain : ∀ q ∈ args.map Query.wandAsAnd, Plain q := List.forall_mem_map.2 ih
    by_cases is_wand : op = .wand
    · subst is_wand
      rw [wandAsAnd_wand]
      exact .apply (fun _ => rfl) args_plain
    · rw [wandAsAnd_apply is_wand]
      refine .apply ?_ args_plain
      rw [List.length_map]
      exact unweighted

end Replacing

/-! ### Scored arguments -/

variable {α : Type} [Scalar α] [Numeral α] {index : Index} {model : RetrievalModel α}
  {q r p : Query α}

omit [Scalar α] in
/-- Replacing weighted intersections keeps what a positional query is evaluated to. -/
theorem positional_wandAsAnd_iff {list : InvertedList} :
    p.wandAsAnd.positional index = .ok list ↔ p.positional index = .ok list := by
  constructor
  · intro evaluated
    rw [(merging_of_positional evaluated).of_wandAsAnd.wandAsAnd_eq] at evaluated
    exact evaluated
  · intro evaluated
    rw [(merging_of_positional evaluated).wandAsAnd_eq]
    exact evaluated

/-- Replacing weighted intersections keeps the scoring trees of what is scored by itself. -/
theorem scoringTree_wandAsAnd_iff (found : q.scoredPart? = some p) {tree : ScoringTree α} :
    q.wandAsAnd.scoringTree index model = .ok tree ↔ q.scoringTree index model = .ok tree := by
  have other_found : q.wandAsAnd.scoredPart? = some p.wandAsAnd := by
    rw [scoredPart?_wandAsAnd, found]
    rfl
  rw [scoringTree, scoringTree, build_of_scoredPart? found, build_of_scoredPart? other_found]
  split
  · rw [scoringLeaf, scoringLeaf, Except.map_eq_ok_iff, Except.map_eq_ok_iff]
    simp only [positional_wandAsAnd_iff]
  · rfl

omit [Scalar α] in
theorem isSome_repeatKey?_wandAsAnd (q : Query α) :
    q.wandAsAnd.repeatKey?.isSome = q.repeatKey?.isSome := by
  cases q with
  | term stem field => rfl
  | apply op args weights =>
    by_cases is_wand : op = .wand
    · subst is_wand
      rw [wandAsAnd_wand]
      rfl
    · rw [wandAsAnd_apply is_wand]
      cases op <;> rfl

/-- An argument that can have repeats keeps its scoring tree when weighted intersections are
replaced in it. -/
theorem scoringTree_wandAsAnd_iff_of_repeatKey? (repeated : q.repeatKey?.isSome)
    {tree : ScoringTree α} :
    q.wandAsAnd.scoringTree index model = .ok tree ↔ q.scoringTree index model = .ok tree := by
  obtain ⟨args, weights, rfl⟩ := exists_score_of_repeatKey? repeated
  cases args with
  | nil => rfl
  | cons p rest => exact scoringTree_wandAsAnd_iff rfl

/-! ### Combinations -/

/-- Whether repeats are folded or not, the arguments that are left have the same values: what one
query drops repeats an argument that the other one keeps. -/
theorem sameValues_wandAsAnd {op other : Operator} {args : List (Query α)} {doc : DocId}
    (args_plain : ∀ q ∈ args, Plain q)
    (built : ∀ q ∈ firsts (keyUnder op) args, ∃ t, q.scoringTree index model = .ok t)
    (other_built : ∀ q ∈ firsts (fun q => keyUnder other q.wandAsAnd) args,
      ∃ t, q.wandAsAnd.scoringTree index model = .ok t)
    (args_same : ∀ q ∈ args, ∀ t u, q.scoringTree index model = .ok t →
      q.wandAsAnd.scoringTree index model = .ok u →
      q.standing index model doc = q.wandAsAnd.standing index model doc) :
    SameValues (keyUnder op) (fun q => keyUnder other q.wandAsAnd) (standing index model doc)
      (fun q => q.wandAsAnd.standing index model doc) args := by
  intro q hq r hr either
  obtain ⟨t, q_built⟩ := built q hq
  obtain ⟨u, r_built⟩ := other_built r hr
  have q_plain := args_plain q (mem_of_mem_firsts hq)
  have r_plain := args_plain r (mem_of_mem_firsts hr)
  rcases either with rfl | same | same
  · exact args_same q (mem_of_mem_firsts hq) t u q_built r_built
  · obtain ⟨repeated, same_key⟩ := repeatKey?_eq_of_sameKey same
    have r_repeated : r.repeatKey?.isSome := same_key ▸ repeated
    have r_built' := (scoringTree_wandAsAnd_iff_of_repeatKey? r_repeated).1 r_built
    calc q.standing index model doc
        = r.standing index model doc :=
          q_plain.standing_eq_of_repeatKey? r_plain q_built r_built' r_repeated same_key doc
      _ = r.wandAsAnd.standing index model doc := standing_eq_of_scoringTree r_built' r_built doc
  · have same' : SameKey (keyUnder other) q.wandAsAnd r.wandAsAnd := same
    obtain ⟨repeated, same_key⟩ := repeatKey?_eq_of_sameKey same'
    have q_repeated : q.repeatKey?.isSome := by
      rw [← isSome_repeatKey?_wandAsAnd]
      exact repeated
    have q_built' := (scoringTree_wandAsAnd_iff_of_repeatKey? q_repeated).2 q_built
    calc q.standing index model doc
        = q.wandAsAnd.standing index model doc := standing_eq_of_scoringTree q_built q_built' doc
      _ = r.wandAsAnd.standing index model doc :=
          q_plain.wandAsAnd.standing_eq_of_repeatKey? r_plain.wandAsAnd q_built' r_built
            (same_key ▸ repeated) same_key doc

section Boolean

variable (boolean : model = .unrankedBoolean ∨ model = .rankedBoolean)

include boolean

/-- Under the Boolean models it does not matter for how many arguments a query stands. -/
theorem exists_scoringTree_of_build {n : Nat} {tree : ScoringTree α}
    (built : q.build index model n = .ok tree) :
    ∃ u, q.scoringTree index model = .ok u ∧
      ∀ doc, tree.standing index model doc = u.standing index model doc := by
  rcases scored_or_structural q with
    ⟨p, found⟩ | ⟨weights, rfl⟩ | ⟨op, args, weights, rfl, structural, not_score⟩
  · rw [build_of_scoredPart? found] at built
    split at built
    · rename_i supported
      obtain ⟨list, evaluated, rfl⟩ := Except.map_eq_ok_iff.1 built
      refine ⟨.leaf (Cursor.start list) 1, ?_, fun doc => ?_⟩
      · rw [scoringTree, build_of_scoredPart? found, if_pos supported, scoringLeaf, evaluated]
        rfl
      · rcases boolean with rfl | rfl <;> rfl
    · cases built
  · rw [← buildFolding_foldsRepeats] at built
    exact absurd built buildFolding_score_nil
  · refine ⟨tree, ?_, fun _ => rfl⟩
    rw [build_structural_iff structural not_score] at built
    exact (build_structural_iff structural not_score).2 built

/-- A combination that can be built combines what its first arguments say. -/
theorem standing_structural {op : Operator} {args : List (Query α)} {weights : List α}
    (structural : op.isPositional = false) (not_score : op ≠ .score) {tree : ScoringTree α}
    (built : (apply op args weights).scoringTree index model = .ok tree) :
    model.supports op = true ∧
      (∀ q ∈ firsts (keyUnder op) args, ∃ t, q.scoringTree index model = .ok t) ∧
      ∀ doc, (apply op args weights).standing index model doc =
        Standing.combine model op ((scoredArgs op args weights).map Argument.weight)
          ((firsts (keyUnder op) args).map (standing index model doc)) := by
  obtain ⟨supported, trees, related, rfl⟩ := (build_structural_iff structural not_score).1 built
  have each := related.imp fun f t arg_built => exists_scoringTree_of_build boolean arg_built
  have trees_supported : ∀ t ∈ trees, t.Supported model := by
    intro t ht
    obtain ⟨f, -, arg_built⟩ := exists_of_forall₂ related.flip ht
    exact holds_of_build givenByBuilding_supported f.item f.count arg_built
  refine ⟨supported, fun q hq => ?_, fun doc => ?_⟩
  · rw [← items_scoredArgs op args weights] at hq
    obtain ⟨f, hf, rfl⟩ := List.mem_map.1 hq
    obtain ⟨t, -, u, arg_built, -⟩ := exists_of_forall₂ each hf
    exact ⟨u, arg_built⟩
  · have values : trees.map (ScoringTree.standing index model doc) =
        (scoredArgs op args weights).map fun f => f.item.standing index model doc := by
      refine map_eq_of_forall₂ (each.imp fun f t of_arg => ?_)
      obtain ⟨u, arg_built, same⟩ := of_arg
      rw [same doc, standing_of_scoringTree arg_built]
    rw [standing_of_scoringTree built, Supported.standing_combine trees_supported, values,
      ← items_scoredArgs op args weights, List.map_map]
    rfl

/-- An operator over arguments in which weighted intersections are replaced says of a document what
its first arguments say together. -/
theorem standing_map_wandAsAnd {op : Operator} {args : List (Query α)} {weights : List α}
    (structural : op.isPositional = false) (not_score : op ≠ .score) {tree : ScoringTree α}
    (built : (apply op (args.map wandAsAnd) weights).scoringTree index model = .ok tree) :
    (∀ q ∈ firsts (fun q => keyUnder op q.wandAsAnd) args,
      ∃ t, q.wandAsAnd.scoringTree index model = .ok t) ∧
      ∀ doc, (apply op (args.map wandAsAnd) weights).standing index model doc =
        Standing.combine model op
          ((scoredArgs op (args.map wandAsAnd) weights).map Argument.weight)
          ((firsts (fun q => keyUnder op q.wandAsAnd) args).map fun q =>
            q.wandAsAnd.standing index model doc) := by
  obtain ⟨-, args_built, value_eq⟩ := standing_structural boolean structural not_score built
  rw [firsts_map] at args_built value_eq
  refine ⟨fun q hq => args_built q.wandAsAnd (List.mem_map_of_mem hq), fun doc => ?_⟩
  rw [value_eq doc, List.map_map]
  rfl

section Arguments

variable {op : Operator} {args : List (Query α)} {weights other_weights : List α} {doc : DocId}
  {tree other : ScoringTree α} (args_plain : ∀ q ∈ args, Plain q)
  (args_same : ∀ q ∈ args, ∀ t u, q.scoringTree index model = .ok t →
    q.wandAsAnd.scoringTree index model = .ok u →
    q.standing index model doc = q.wandAsAnd.standing index model doc)

include args_plain args_same

/-- Intersections of arguments that say the same say the same, whether they have weights or not. -/
theorem standing_intersection [Scalar.AbsorbsRepeats α] (intersects : op = .and ∨ op = .wand)
    (built : (apply op args weights).scoringTree index model = .ok tree)
    (other_built : (apply .and (args.map wandAsAnd) other_weights).scoringTree index model =
      .ok other) :
    (apply op args weights).standing index model doc =
      (apply .and (args.map wandAsAnd) other_weights).standing index model doc := by
  have structural : op.isPositional = false ∧ op ≠ .score := by
    rcases intersects with rfl | rfl <;> decide
  obtain ⟨-, args_built, value_eq⟩ :=
    standing_structural boolean structural.1 structural.2 built
  obtain ⟨others_built, other_value_eq⟩ :=
    standing_map_wandAsAnd boolean rfl (by decide) other_built
  have same_values := sameValues_wandAsAnd args_plain args_built others_built args_same
  rw [value_eq doc, other_value_eq doc]
  refine Standing.combine_intersection boolean intersects _ _ same_values.mem_iff ?_
  refine same_values.foldl_eq fun vs v member => ?_
  have listed : v.score ∈ vs.map Standing.score := List.mem_map_of_mem member
  have absorbed := Scalar.AbsorbsRepeats.lesser_of_mem listed
  rw [List.foldl_map] at absorbed
  exact absorbed

omit args_plain in
/-- Unions of arguments that say the same say the same. -/
theorem standing_union (built : (apply .or args weights).scoringTree index model = .ok tree)
    (other_built : (apply .or (args.map wandAsAnd) weights).scoringTree index model = .ok other) :
    (apply .or args weights).standing index model doc =
      (apply .or (args.map wandAsAnd) weights).standing index model doc := by
  obtain ⟨-, args_built, value_eq⟩ := standing_structural boolean rfl (by decide) built
  obtain ⟨others_built, other_value_eq⟩ :=
    standing_map_wandAsAnd boolean rfl (by decide) other_built
  -- nothing is folded, so the arguments are compared one by one
  have all_left : firsts (keyUnder .or) args = args := firsts_none args
  have others_left : firsts (fun q => keyUnder .or q.wandAsAnd) args = args := firsts_none args
  rw [all_left] at args_built value_eq
  rw [others_left] at others_built other_value_eq
  have values : args.map (standing index model doc) =
      args.map fun q => q.wandAsAnd.standing index model doc := by
    refine List.map_congr_left fun q hq => ?_
    obtain ⟨t, q_built⟩ := args_built q hq
    obtain ⟨u, image_built⟩ := others_built q hq
    exact args_same q hq t u q_built image_built
  rw [value_eq doc, other_value_eq doc, values]
  rcases boolean with rfl | rfl <;> rfl

end Arguments

omit [Scalar α] [Numeral α] in
theorem intersection_or_union {op : Operator} (supported : model.supports op = true)
    (not_score : op ≠ .score) : op = .and ∨ op = .wand ∨ op = .or := by
  rcases boolean with rfl | rfl <;>
    cases op <;> simp [RetrievalModel.supports] at supported not_score ⊢

/-- A query and the one without weighted intersections say the same of every document. -/
theorem standing_wandAsAnd [Scalar.AbsorbsRepeats α] (plain : Plain q) {tree other : ScoringTree α}
    (built : q.scoringTree index model = .ok tree)
    (other_built : q.wandAsAnd.scoringTree index model = .ok other) (doc : DocId) :
    q.standing index model doc = q.wandAsAnd.standing index model doc := by
  induction q using induct generalizing tree other with
  | term stem field => rfl
  | apply op args weights ih =>
    rcases scored_or_structural (apply op args weights) with
      ⟨p, found⟩ | ⟨others, same⟩ | ⟨_, _, _, same, structural, not_score⟩
    · exact standing_eq_of_scoringTree built ((scoringTree_wandAsAnd_iff found).2 built) doc
    · rw [same, scoringTree, ← buildFolding_foldsRepeats] at built
      exact absurd built buildFolding_score_nil
    obtain ⟨rfl, rfl, rfl⟩ := Query.apply.inj same
    have args_plain := plain.of_apply.2
    have args_same : ∀ q ∈ args, ∀ t u, q.scoringTree index model = .ok t →
        q.wandAsAnd.scoringTree index model = .ok u →
        q.standing index model doc = q.wandAsAnd.standing index model doc :=
      fun q hq t u => ih q hq (args_plain q hq)
    have supported := (standing_structural boolean structural not_score built).1
    rcases intersection_or_union boolean supported not_score with rfl | rfl | rfl
    · rw [wandAsAnd_apply (by decide)] at other_built ⊢
      exact standing_intersection boolean args_plain args_same (.inl rfl) built other_built
    · rw [wandAsAnd_wand] at other_built ⊢
      exact standing_intersection boolean args_plain args_same (.inr rfl) built other_built
    · rw [wandAsAnd_apply (by decide)] at other_built ⊢
      exact standing_union boolean args_same built other_built

end Boolean

/-! ### Results -/

/-- Over any documents and under the Boolean models, replacing all weighted intersections of a query
by intersections without weights changes neither the documents that it finds nor their scores, if it
can be built in both forms.  The query is made of bare words, and neither a positional operator nor
a `score` of several arguments has weights. -/
theorem execute_wandAsAnd {drafts : List Draft} {model : RetrievalModel Number} {q : Query Number}
    (boolean : model = .unrankedBoolean ∨ model = .rankedBoolean)
    (bare : ∀ leaf ∈ q.leaves, Bare leaf.1 ∧ Bare leaf.2)
    (unweighted : ∀ op args weights, apply op args weights ∈ q.nodes →
      op.isPositional = true ∨ op = .score ∧ 1 < args.length → weights = [])
    {tree other : ScoringTree Number}
    (built : q.scoringTree (Index.ofDrafts drafts) model = .ok tree)
    (other_built : q.wandAsAnd.scoringTree (Index.ofDrafts drafts) model = .ok other) :
    ∃ result, q.execute (Index.ofDrafts drafts) model = .ok result ∧
      q.wandAsAnd.execute (Index.ofDrafts drafts) model = .ok result := by
  have plain : Plain q := .of_parts bare unweighted
  have ordered := Index.ordered_ofDrafts drafts
  obtain ⟨entries, run, ranking⟩ := execute_of_ordered ordered built
  obtain ⟨others, other_run, other_ranking⟩ := execute_of_ordered ordered other_built
  have same_standing (doc : DocId) : other.standing (Index.ofDrafts drafts) model doc =
      tree.standing (Index.ofDrafts drafts) model doc := by
    rw [← standing_of_scoringTree built, ← standing_of_scoringTree other_built]
    exact (standing_wandAsAnd boolean plain built other_built doc).symm
  have same_entries : others = entries := ranking.eq_of_standing other_ranking
    (supported_of_scoringTree built) (supported_of_scoringTree other_built) same_standing
  exact ⟨⟨entries⟩, run, same_entries ▸ other_run⟩

/-- A term is repeated under weighted intersections, one of which is inside of the other. -/
theorem execute_wandAsAnd_nested :
    let drafts : List Draft :=
      [⟨"a", [.setField "body" "dog cat dog"]⟩, ⟨"b", [.setField "body" "dog"]⟩,
        ⟨"c", [.setField "body" "bird"]⟩]
    let dog : Query Number := apply .score [term "dog" "body"] []
    let cat : Query Number := apply .score [term "cat" "body"] []
    let bird : Query Number := apply .score [term "bird" "body"] []
    let inner : Query Number := apply .wand [dog, cat, dog] [.ofFloat 2, .ofFloat 0.5, .ofFloat 1]
    let q : Query Number := apply .or [apply .wand [dog, inner, dog] [.ofFloat 1], bird] []
    ∃ result, q.execute (Index.ofDrafts drafts) .rankedBoolean = .ok result ∧
      q.wandAsAnd.execute (Index.ofDrafts drafts) .rankedBoolean = .ok result ∧
      result.entries.map ScoredDocument.doc = [0, 2] := by
  intro drafts dog cat bird inner q
  have bare : ∀ leaf ∈ q.leaves, Bare leaf.1 ∧ Bare leaf.2 := by decide
  have unweighted : ∀ op args weights, apply op args weights ∈ q.nodes →
      op.isPositional = true ∨ op = .score ∧ 1 < args.length → weights = [] := by
    have parts : ∀ part ∈ q.nodes, (part.isPositional || part.repeatKey?.isSome) = true →
        part.weights.isEmpty = true := by decide
    intro op args weights part merges
    refine List.isEmpty_iff.1 (parts _ part ?_)
    rcases merges with positional | ⟨rfl, -⟩
    · exact Bool.or_eq_true_iff.2 (.inl positional)
    · rfl
  have trees : (q.scoringTree (Index.ofDrafts drafts) .rankedBoolean).isOk = true ∧
      (q.wandAsAnd.scoringTree (Index.ofDrafts drafts) .rankedBoolean).isOk = true := by
    decide +kernel
  have found : (q.execute (Index.ofDrafts drafts) .rankedBoolean).toOption.map
      (fun result => result.entries.map ScoredDocument.doc) = some [0, 2] := by
    decide +kernel
  cases built : q.scoringTree (Index.ofDrafts drafts) .rankedBoolean with
  | error e => simp [built, Except.isOk, Except.toBool] at trees
  | ok tree =>
    cases other_built : q.wandAsAnd.scoringTree (Index.ofDrafts drafts) .rankedBoolean with
    | error e => simp [other_built, Except.isOk, Except.toBool] at trees
    | ok other =>
      obtain ⟨result, run, other_run⟩ :=
        execute_wandAsAnd (.inr rfl) bare unweighted built other_built
      rw [run] at found
      exact ⟨result, run, other_run, Option.some.inj found⟩

/-- A weight of a positional operator is printed like a term before its first argument.  So of two
phrases one is taken for a repeat of the other, but only where repeats are folded. -/
theorem execute_wandAsAnd_weighted :
    let drafts : List Draft :=
      [⟨"d0", [.setField "5" "dog cat"]⟩, ⟨"d1", [.setField "5" "1 dog cat"]⟩]
    let weighted : Query Number :=
      apply (.near 1) [term "dog" "5", term "cat" "5"] [.ofFloat 1.5]
    let longer : Query Number :=
      apply (.near 1) [term "1" "5", term "dog" "5", term "cat" "5"] []
    let q : Query Number := apply .wand [apply .score [weighted] [], apply .score [longer] []] []
    let docs (q : Query Number) :=
      (q.execute (Index.ofDrafts drafts) .unrankedBoolean).toOption.map
        fun result => result.entries.map ScoredDocument.doc
    (∀ leaf ∈ q.leaves, ∀ c ∈ leaf.1.toList ++ leaf.2.toList, c ∉ [' ', '.', ',', '(', ')']) ∧
      (q.scoringTree (Index.ofDrafts drafts) .unrankedBoolean).isOk = true ∧
      (q.wandAsAnd.scoringTree (Index.ofDrafts drafts) .unrankedBoolean).isOk = true ∧
      docs q = some [1] ∧ docs q.wandAsAnd = some [0, 1] := by
  intro drafts weighted longer q docs
  exact ⟨by decide, by decide +kernel, by decide +kernel, by decide +kernel, by decide +kernel⟩

end Query

end RankedRetrieval

import Mathlib.Data.List.Induction
import Mathlib.Data.List.Nodup
import RankedRetrieval.Scoring.Tree

/-!
# Folding of repeated arguments

Arguments that are recognised by a key are folded into one argument for each key, which stands
for as many arguments as there were.

## Main Definitions

* `Argument.ofCount` — the argument that a number of equal arguments is folded into
* `Query.overTerms` — an operator over terms in one field

## Main Results

* `Argument.foldRepeats_keyed` — folding lists every argument once, with its count
* `Query.scoringTree_overTerms` — the scoring tree of an operator over terms

## Design Notes

Folding goes from left to right, so the proof is by induction from the end: one more argument is
either counted by the argument that it repeats or put behind the others.
-/

namespace RankedRetrieval.Argument

variable {α β γ : Type} [Scalar α]

/-- The weight of a number of arguments that have no weight of their own. -/
def unitWeight (count : Nat) : α :=
  (List.replicate (count - 1) (Scalar.ofNat 1)).foldl (· + ·) (Scalar.ofNat 1)

/-- The argument that a number of equal arguments is folded into. -/
def ofCount (key : γ → String) (item : γ → β) (count : Nat) (c : γ) : Argument α β :=
  ⟨some (key c), item c, unitWeight count, count⟩

theorem unitWeight_succ {count : Nat} (positive : 0 < count) :
    (unitWeight (count + 1) : α) = unitWeight count + Scalar.ofNat 1 := by
  obtain ⟨n, rfl⟩ := Nat.exists_eq_add_of_lt positive
  have more : 0 + n + 1 + 1 - 1 = (0 + n + 1 - 1) + 1 := by omega
  rw [unitWeight, more, List.replicate_succ', List.foldl_append]
  rfl

theorem foldRepeats_append_singleton (args : List (Argument α β)) (f : Argument α β) :
    foldRepeats (args ++ [f]) = foldInto f (foldRepeats args) := by
  rw [foldRepeats, List.foldl_append]
  rfl

theorem ofWeights_append (items others : List (Option String × β)) :
    (ofWeights (items ++ others) [] : List (Argument α β)) =
      ofWeights items [] ++ ofWeights others [] := by
  induction items with
  | nil => rfl
  | cons entry items ih =>
    rw [List.cons_append, ofWeights, ih, ofWeights, List.cons_append]

section Keyed

variable {key : γ → String} {item : γ → β}

/-- An argument with a new key is put behind the others. -/
theorem foldInto_of_not_mem {repeated : Argument α β} {args : List (Argument α β)}
    (fresh : ∀ f ∈ args, f.key? ≠ repeated.key?) : foldInto repeated args = args ++ [repeated] := by
  induction args with
  | nil => rfl
  | cons f args ih =>
    obtain ⟨head, tail⟩ := List.forall_mem_cons.1 fresh
    rw [foldInto, if_neg fun same => head same.2, ih tail, List.cons_append]

variable [DecidableEq γ]

/-- An argument that repeats another one is counted there. -/
theorem foldInto_of_mem (injective : Function.Injective key) {c : γ} {ds : List γ}
    (member : c ∈ ds) (distinct : ds.Nodup) (counts : γ → Nat) (positive : 0 < counts c) :
    foldInto (ofCount key item 1 c) (ds.map fun d => ofCount key item (counts d) d) =
      ds.map fun d => (ofCount key item (counts d + if d = c then 1 else 0) d : Argument α β) := by
  induction ds with
  | nil => simp at member
  | cons d ds ih =>
    obtain ⟨not_later, distinct⟩ := List.nodup_cons.1 distinct
    by_cases same : d = c
    · subst same
      have others : ds.map (fun e => (ofCount key item (counts e + if e = d then 1 else 0) e :
          Argument α β)) = ds.map fun e => ofCount key item (counts e) e := by
        refine List.map_congr_left fun e later => ?_
        have different : e ≠ d := fun same => not_later (same ▸ later)
        rw [if_neg different, Nat.add_zero]
      rw [List.map_cons, List.map_cons, foldInto, if_pos ⟨rfl, rfl⟩, others, if_pos rfl]
      simp only [ofCount, unitWeight_succ positive]
      rfl
    · have later : c ∈ ds := (List.mem_cons.1 member).resolve_left (Ne.symm same)
      have different : (ofCount key item (counts d) d : Argument α β).key? ≠
          (ofCount key item 1 c : Argument α β).key? := by
        intro equal
        exact same (injective (Option.some.inj equal))
      rw [List.map_cons, List.map_cons, foldInto, if_neg fun equal => different equal.2,
        ih later distinct, if_neg same, Nat.add_zero]

/-- Folding lists every argument once, with its count. -/
theorem foldRepeats_keyed (injective : Function.Injective key) (cs : List γ) :
    ∃ ds : List γ, ds.Nodup ∧ (∀ c, c ∈ ds ↔ c ∈ cs) ∧
      foldRepeats (ofWeights (cs.map fun c => (some (key c), item c)) []) =
        ds.map fun c => (ofCount key item (cs.count c) c : Argument α β) := by
  induction cs using List.reverseRecOn with
  | nil => exact ⟨[], List.nodup_nil, fun _ => Iff.rfl, rfl⟩
  | append_singleton cs c ih =>
    obtain ⟨ds, distinct, members, folded⟩ := ih
    have one : (ofWeights ([c].map fun c => (some (key c), item c)) [] : List (Argument α β)) =
        [ofCount key item 1 c] := rfl
    rw [List.map_append, ofWeights_append, one, foldRepeats_append_singleton, folded]
    by_cases repeats : c ∈ cs
    · refine ⟨ds, distinct, fun d => ?_, ?_⟩
      · rw [members, List.mem_append, List.mem_singleton]
        refine ⟨.inl, fun either => either.elim id ?_⟩
        rintro rfl
        exact repeats
      · rw [foldInto_of_mem injective ((members c).2 repeats) distinct _
          (List.count_pos_iff.2 repeats)]
        refine List.map_congr_left fun d _ => ?_
        rw [List.count_append, List.count_singleton]
        by_cases same : d = c
        · subst same
          simp
        · have other : c ≠ d := Ne.symm same
          simp [same, other]
    · have fresh : c ∉ ds := fun member => repeats ((members c).1 member)
      refine ⟨ds ++ [c], ?_, fun d => ?_, ?_⟩
      · exact List.Nodup.append distinct (List.nodup_singleton c) (by simpa using fresh)
      · simp [members]
      · rw [foldInto_of_not_mem ?_, List.map_append]
        · refine congrArg₂ _ (List.map_congr_left fun d member => ?_) ?_
          · have different : d ≠ c := fun same => fresh (same ▸ member)
            rw [List.count_append, List.count_singleton]
            simp [Ne.symm different]
          · simp [List.count_append, List.count_eq_zero_of_not_mem repeats]
        · intro f member
          obtain ⟨d, hd, rfl⟩ := List.mem_map.1 member
          intro equal
          exact fresh (injective (Option.some.inj equal) ▸ hd)

end Keyed

end RankedRetrieval.Argument

namespace RankedRetrieval.Query

variable {α : Type}

/-! ### Queries over scored terms -/

/-- An operator over terms in one field, each of them scored by itself. -/
def overTerms (op : Operator) (field : String) (stems : List String) : Query α :=
  apply op (stems.map fun stem => (term stem field).scored) []

variable [Scalar α] [Numeral α] {index : Index} {model : RetrievalModel α}

theorem builders_scored (field : String) (stems : List String) :
    builders index model (stems.map fun stem => (term stem field).scored) =
      stems.map fun stem =>
        (some (stem ++ "." ++ field), build index model (term stem field : Query α).scored) := by
  induction stems with
  | nil => rfl
  | cons stem stems ih =>
    rw [List.map_cons, builders, ih, List.map_cons]
    rfl

omit [Scalar α] [Numeral α] in
theorem buildAll_map {γ : Type} {ds : List γ}
    {f : γ → Argument α (Nat → Except QueryError (ScoringTree α))} {tree : γ → ScoringTree α}
    (built : ∀ d ∈ ds, (f d).item (f d).count = .ok (tree d)) :
    buildAll (ds.map f) = .ok (ds.map tree) := by
  induction ds with
  | nil => rfl
  | cons d ds ih =>
    obtain ⟨head, tail⟩ := List.forall_mem_cons.1 built
    rw [List.map_cons, buildAll, head, ih tail]
    rfl

/-- A scored term is a leaf over its postings. -/
theorem build_scored_term (scores : model.supports .score = true) (stem field : String)
    (qtf : Nat) :
    build index model (term stem field : Query α).scored qtf =
      .ok (.leaf (Cursor.start (index.invertedList stem field)) qtf) := by
  rw [scored, build.eq_def]
  dsimp only
  rw [if_neg (by decide), if_neg (by simp [scores]), if_pos rfl, scoringLeaf, positional]
  rfl

/-- The scoring tree of an operator that folds repeats has one leaf for each of its terms. -/
theorem scoringTree_overTerms {op : Operator} (supported : model.supports op = true)
    (scores : model.supports .score = true) (structural : op.isPositional = false)
    (not_score : op ≠ .score) (folds : op.foldsRepeats = true) (field : String)
    (stems : List String) :
    ∃ ds : List String, ds.Nodup ∧ (∀ stem, stem ∈ ds ↔ stem ∈ stems) ∧
      (overTerms op field stems : Query α).scoringTree index model =
        .ok (.combine op
          (ds.map fun stem =>
            .leaf (Cursor.start (index.invertedList stem field)) (stems.count stem))
          (ds.map fun stem => Argument.unitWeight (stems.count stem)) none) := by
  have injective : Function.Injective fun stem : String => stem ++ "." ++ field := by
    intro s t same
    simpa [String.append_assoc] using same
  obtain ⟨ds, distinct, members, folded⟩ :=
    @Argument.foldRepeats_keyed α _ _ _ _
      (fun stem => build index model (term stem field : Query α).scored) _ injective stems
  refine ⟨ds, distinct, members, ?_⟩
  rw [scoringTree, overTerms, build.eq_def]
  dsimp only
  rw [if_neg (by simp [structural]), if_neg (by simp [supported]), if_neg not_score,
    Argument.forOperator, if_pos folds, builders_scored, folded,
    buildAll_map fun stem _ => build_scored_term scores stem field (stems.count stem), List.map_map]
  rfl

end RankedRetrieval.Query

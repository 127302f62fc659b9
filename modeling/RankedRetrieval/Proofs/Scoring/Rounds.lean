import RankedRetrieval.Proofs.Positional.Alignment
import RankedRetrieval.Proofs.Scoring.Calls
import RankedRetrieval.Proofs.Scoring.Growth

/-!
# Rounds of agreement

A combination that asks for all arguments settles them in rounds until they agree.  However trees
are nested, and wherever calls have left their cursors, the rounds come to an end.

## Main Definitions

* `ScoringTree.cursors` — the cursors of the leaves of a tree
* `Cursor.Progress` — cursors of which one has moved on and none has moved back
* `ScoringTree.Looks`, `ScoringTree.MatchesAll` — looking for a match without a bound on the number
  of rounds

## Main Results

* `ScoringTree.Positioned.looks_settle` — looking for a match comes to an end
* `ScoringTree.Positioned.matchesAll_settleOnAll` — so do the rounds of a combination
* `agreement_ends` — both ways of finding a common document end, and miss nothing

## Design Notes

**The rounds have no bound of their own.**  `Looks` and `MatchesAll` are what `settle` and
`settleOnAll` do, with nested rounds in the arguments and no limit on their number or depth.  A
derivation is a run that ends.

**What ends them is carried along.**  A round without an agreement is followed by another one only
with a proof that a cursor has moved on (`MatchesAll.again`): the argument that is at an earlier
match than the others leaves it.
-/

namespace RankedRetrieval

namespace Cursor

/-! ### Moving on -/

/-- A later state of a cursor. -/
structure Forward (c later : Cursor) : Prop where
  /-- The cursor is over the same list. -/
  list_eq : later.list = c.list
  /-- What is ahead was ahead before. -/
  suffix : later.rest <:+ c.rest

theorem Forward.refl (c : Cursor) : Forward c c := ⟨rfl, List.suffix_refl _⟩

theorem Forward.trans {c later last : Cursor} (first : Forward c later)
    (second : Forward later last) : Forward c last :=
  ⟨second.list_eq.trans first.list_eq, second.suffix.trans first.suffix⟩

theorem forward_advanceTo (c : Cursor) (doc : DocId) : Forward c (c.advanceTo doc) where
  list_eq := list_advanceTo c doc
  suffix := by
    unfold advanceTo advanceWhile
    dsimp only
    split
    · exact skipPassed_suffix _ c.rest
    · exact List.suffix_refl _

/-- Cursors none of which has moved back. -/
def AllForward (before after : List Cursor) : Prop :=
  List.Forall₂ Forward before after

theorem AllForward.refl (cs : List Cursor) : AllForward cs cs :=
  List.forall₂_same.2 fun c _ => Forward.refl c

theorem AllForward.trans {before between after : List Cursor}
    (first : AllForward before between) (second : AllForward between after) :
    AllForward before after := by
  induction first generalizing after with
  | nil => exact second
  | cons head _ ih =>
    cases second with
    | cons head' tail' => exact .cons (head.trans head') (ih tail')

/-- Cursors none of which has moved back, while one has moved on. -/
structure Progress (before after : List Cursor) : Prop where
  /-- No cursor has moved back. -/
  forward : AllForward before after
  /-- One cursor has passed a posting. -/
  strict : ∃ moved ∈ before.zip after, moved.2.rest.length < moved.1.rest.length

/-- When fewer postings are ahead of all cursors together, one of them has moved on. -/
theorem AllForward.progress {before after : List Cursor} (forward : AllForward before after)
    (fewer : (after.map remaining).sum < (before.map remaining).sum) : Progress before after where
  forward := forward
  strict := by
    induction forward with
    | nil => simp at fewer
    | @cons c later before after head _ ih =>
      rw [List.map_cons, List.sum_cons, List.map_cons, List.sum_cons] at fewer
      rcases Nat.lt_or_ge later.remaining c.remaining with less | not_less
      · exact ⟨(c, later), List.mem_cons_self, less⟩
      · obtain ⟨moved, member, less⟩ := ih (by omega)
        exact ⟨moved, List.mem_cons_of_mem _ member, less⟩

end Cursor

namespace ScoringTree

variable {α : Type} {model : RetrievalModel α}

/-! ### The cursors of a tree -/

mutual
/-- The cursors of the leaves of a tree, from left to right. -/
def cursors : ScoringTree α → List Cursor
  | leaf cursor _ => [cursor]
  | combine _ args _ _ => cursorsAll args

/-- The cursors of the leaves of some trees. -/
def cursorsAll : List (ScoringTree α) → List Cursor
  | [] => []
  | t :: ts => t.cursors ++ cursorsAll ts
end

mutual
theorem cursors_advance (move : Cursor → Cursor) :
    (t : ScoringTree α) → (t.advance move).cursors = t.cursors.map move
  | leaf _ _ => rfl
  | combine _ args _ _ => by
    simp only [advance, cursors, cursorsAll_advanceAll move args]

theorem cursorsAll_advanceAll (move : Cursor → Cursor) :
    (ts : List (ScoringTree α)) → cursorsAll (advanceAll move ts) = (cursorsAll ts).map move
  | [] => rfl
  | t :: ts => by
    simp only [advanceAll, cursorsAll, cursors_advance move t, cursorsAll_advanceAll move ts,
      List.map_append]
end

mutual
/-- What is ahead of a tree is what is ahead of its cursors. -/
theorem remaining_eq : (t : ScoringTree α) → t.remaining = (t.cursors.map Cursor.remaining).sum
  | leaf _ _ => by simp only [remaining, cursors, List.map_singleton, List.sum_singleton]
  | combine _ args _ _ => by simp only [remaining, cursors, remainingAll_eq args]

theorem remainingAll_eq : (ts : List (ScoringTree α)) →
    remainingAll ts = ((cursorsAll ts).map Cursor.remaining).sum
  | [] => rfl
  | t :: ts => by
    simp only [remainingAll, cursorsAll, remaining_eq t, remainingAll_eq ts, List.map_append,
      List.sum_append]
end

/-! ### No cursor moves back -/

theorem forward_advanceTo (t : ScoringTree α) (doc : DocId) :
    Cursor.AllForward t.cursors (t.advanceTo doc).cursors := by
  rw [advanceTo, cursors_advance]
  exact List.forall₂_map_right_iff.2 (List.forall₂_same.2 fun c _ => c.forward_advanceTo doc)

theorem forward_cons {t t' : ScoringTree α} {ts ts' : List (ScoringTree α)}
    (head : Cursor.AllForward t.cursors t'.cursors)
    (tail : Cursor.AllForward (cursorsAll ts) (cursorsAll ts')) :
    Cursor.AllForward (cursorsAll (t :: ts)) (cursorsAll (t' :: ts')) :=
  List.rel_append head tail

theorem forward_map {f : ScoringTree α → ScoringTree α}
    (forward : ∀ t, Cursor.AllForward t.cursors (f t).cursors) (ts : List (ScoringTree α)) :
    Cursor.AllForward (cursorsAll ts) (cursorsAll (ts.map f)) := by
  induction ts with
  | nil => exact .nil
  | cons t ts ih => exact forward_cons (forward t) ih

section Settling

variable {settleArg : ScoringTree α → ScoringTree α}

theorem forward_survey (forward : ∀ t, Cursor.AllForward t.cursors (settleArg t).cursors)
    (ts : List (ScoringTree α)) :
    Cursor.AllForward (cursorsAll ts) (cursorsAll (survey settleArg ts).1) := by
  induction ts with
  | nil => exact .nil
  | cons t ts ih =>
    unfold survey
    dsimp only
    split
    · exact forward_cons (forward t) (.refl _)
    · exact forward_cons (forward t) ih

theorem forward_agree (forward : ∀ t, Cursor.AllForward t.cursors (settleArg t).cursors)
    (rounds : Nat) (ts : List (ScoringTree α)) :
    Cursor.AllForward (cursorsAll ts) (cursorsAll (agree settleArg rounds ts).1) := by
  induction rounds generalizing ts with
  | zero => exact .refl _
  | succ rounds ih =>
    have surveyed := forward_survey forward ts
    unfold agree
    split
    · rename_i stopped
      rwa [stopped] at surveyed
    · rename_i found
      rw [found] at surveyed
      split
      · exact surveyed
      · exact surveyed.trans ((forward_map (fun t => t.forward_advanceTo _) _).trans (ih _))

/-- Settling moves no cursor back. -/
theorem forward_settleWithin (depth : Nat) (t : ScoringTree α) :
    Cursor.AllForward t.cursors (settleWithin model depth t).cursors := by
  induction depth generalizing t with
  | zero => cases t <;> exact .refl _
  | succ depth ih =>
    cases t with
    | leaf cursor qtf => exact .refl _
    | combine op args weights current =>
      cases asks : asksForAll model op with
      | false =>
        simp only [settleWithin, asks, settleOnLeast, cursors]
        exact forward_map ih args
      | true =>
        simp only [settleWithin, asks, if_true, settleOnAll, cursors]
        split
        · exact .refl _
        · exact forward_agree ih _ args

end Settling

/-! ### Looking for a match without a bound -/

mutual
/-- Looking for the next match of a tree ends in a state of the tree. -/
inductive Looks (model : RetrievalModel α) : ScoringTree α → ScoringTree α → Prop where
  /-- A leaf is always at its next match. -/
  | leaf {cursor : Cursor} {qtf : Nat} : Looks model (leaf cursor qtf) (leaf cursor qtf)
  /-- A combination that asks for one argument looks for the least match of its arguments. -/
  | least {op : Operator} {args settled : List (ScoringTree α)} {weights : List α}
      {current : Option DocId} (one_suffices : asksForAll model op = false)
      (each : List.Forall₂ (Looks model) args settled) :
      Looks model (combine op args weights current)
        (combine op settled weights (settled.filterMap current?).min?)
  /-- A combination that asks for all arguments looks for a match of all of them. -/
  | all {op : Operator} {args settled : List (ScoringTree α)} {weights : List α}
      {current found : Option DocId} (asks : asksForAll model op = true)
      (matched : MatchesAll model args settled found) :
      Looks model (combine op args weights current) (combine op settled weights found)

/-- Looking for matches of arguments, from left to right, until one of them has none. -/
inductive Surveys (model : RetrievalModel α) :
    List (ScoringTree α) → List (ScoringTree α) → Option (List DocId) → Prop where
  /-- There are no arguments. -/
  | nil : Surveys model [] [] (some [])
  /-- An argument without a match ends the survey. -/
  | exhausted {t settled : ScoringTree α} {ts : List (ScoringTree α)}
      (looked : Looks model t settled) (at_end : settled.current? = none) :
      Surveys model (t :: ts) (settled :: ts) none
  /-- The survey goes on behind an argument with a match. -/
  | found {t settled : ScoringTree α} {ts others : List (ScoringTree α)} {doc : DocId}
      {docs? : Option (List DocId)} (looked : Looks model t settled)
      (at_doc : settled.current? = some doc) (further : Surveys model ts others docs?) :
      Surveys model (t :: ts) (settled :: others) (docs?.map fun docs => doc :: docs)

/-- Rounds of surveys, until an argument has no match or all of them are at the same one. -/
inductive MatchesAll (model : RetrievalModel α) :
    List (ScoringTree α) → List (ScoringTree α) → Option DocId → Prop where
  /-- Without arguments there is no match. -/
  | no_args : MatchesAll model [] [] none
  /-- An argument has no match. -/
  | exhausted {args settled : List (ScoringTree α)} (surveyed : Surveys model args settled none) :
      MatchesAll model args settled none
  /-- The arguments agree. -/
  | agreed {args settled : List (ScoringTree α)} {docs : List DocId} (nonempty : args ≠ [])
      (surveyed : Surveys model args settled (some docs))
      (equal : ∀ doc ∈ docs, doc = latest docs) :
      MatchesAll model args settled (some (latest docs))
  /-- The arguments disagree.  All of them move to the latest of their matches, which moves a cursor
  on, and another round begins. -/
  | again {args settled last : List (ScoringTree α)} {docs : List DocId} {found : Option DocId}
      (surveyed : Surveys model args settled (some docs)) (apart : ∃ doc ∈ docs, doc ≠ latest docs)
      (progress : Cursor.Progress (cursorsAll args)
        (cursorsAll (settled.map fun t => t.advanceTo (latest docs))))
      (further : MatchesAll model (settled.map fun t => t.advanceTo (latest docs)) last found) :
      MatchesAll model args last found
end

/-! ### Rounds end -/

section Rounds

variable {settleArg : ScoringTree α → ScoringTree α} {bound reached : DocId}
  {ts : List (ScoringTree α)}

theorem surveys_survey (looks : ∀ t ∈ ts, Looks model t (settleArg t)) :
    Surveys model ts (survey settleArg ts).1 (survey settleArg ts).2 := by
  induction ts with
  | nil => exact .nil
  | cons t ts ih =>
    obtain ⟨head, tail⟩ := List.forall_mem_cons.1 looks
    unfold survey
    dsimp only
    split
    · rename_i at_end
      exact .exhausted head at_end
    · rename_i doc at_doc
      exact .found head at_doc (ih tail)

/-- What is asked of a function that settles the arguments of a combination, so that the rounds
with it are runs. -/
structure Finds (model : RetrievalModel α) (settleArg : ScoringTree α → ScoringTree α)
    (ts : List (ScoringTree α)) : Prop extends Settles model settleArg ts where
  /-- Looking for a match of a positioned tree ends in what it yields. -/
  looks : ∀ t, t.depth ≤ depthAll ts → ∀ bound, Positioned model bound t →
    Looks model t (settleArg t)
  /-- It moves no cursor back. -/
  forward : ∀ t, Cursor.AllForward t.cursors (settleArg t).cursors

theorem Finds.of_moved {later : List (ScoringTree α)} (finds : Finds model settleArg ts)
    (moved : MovedAll ts later) : Finds model settleArg later where
  toSettles := finds.toSettles.of_moved moved
  looks t shallow := finds.looks t (by rwa [← moved.depthAll_eq])
  forward := finds.forward

/-- The rounds of a combination are a run that ends, if there may be more of them than postings
are ahead. -/
theorem InRound.matchesAll_agree {rounds : Nat} (kept : InRound model bound reached ts)
    (nonempty : ts ≠ []) (finds : Finds model settleArg ts) (enough : remainingAll ts < rounds) :
    MatchesAll model ts (agree settleArg rounds ts).1 (agree settleArg rounds ts).2 := by
  induction rounds generalizing reached ts with
  | zero => exact absurd enough (Nat.not_lt_zero _)
  | succ rounds ih =>
    have surveys := surveys_survey fun t ht =>
      finds.looks t (depth_le_depthAll ht) reached (kept.args_at t ht)
    unfold agree
    cases surveyed : survey settleArg ts with
    | mk settled docs? =>
      rw [surveyed] at surveys
      cases docs? with
      | none => exact .exhausted surveys
      | some docs =>
        obtain ⟨rfl, currents⟩ := survey_eq_some surveyed
        have moved := MovedAll.map settleArg ts fun t _ => finds.moved t
        have after := kept.map_settle finds.toSettles
        have settled_at : ∀ u ∈ ts.map settleArg, Settled model reached u :=
          List.forall_mem_map.2 fun _ ht => kept.settles_mem finds.toSettles ht
        have settled_nonempty : ts.map settleArg ≠ [] := by simpa using nonempty
        dsimp only
        split
        · rename_i equal
          exact .agreed nonempty surveys
            fun d hd => of_decide_eq_true (List.all_eq_true.1 equal d hd)
        · rename_i disagree
          obtain ⟨doc, hdoc, behind⟩ : ∃ doc ∈ docs, doc ≠ latest docs := by
            simpa using disagree
          have fewer := Nat.lt_of_lt_of_le (remainingAll_catchUp_lt settled_at currents hdoc behind)
            moved.remaining_le
          have forward := (forward_map finds.forward ts).trans
            (forward_map (fun t => t.forward_advanceTo (latest docs)) (ts.map settleArg))
          refine .again surveys ⟨doc, hdoc, behind⟩ (forward.progress ?_) ?_
          · rwa [← remainingAll_eq, ← remainingAll_eq]
          · exact ih (after.catchUp settled_nonempty settled_at currents)
              (by simpa using settled_nonempty)
              (finds.of_moved (moved.trans (movedAll_advanceTo _ _)))
              (Nat.lt_of_lt_of_le fewer (Nat.le_of_lt_succ enough))

theorem InRound.matchesAll_settleOnAll (kept : InRound model bound reached ts)
    (finds : Finds model settleArg ts) :
    MatchesAll model ts (settleOnAll settleArg ts).1 (settleOnAll settleArg ts).2 := by
  cases ts with
  | nil => exact .no_args
  | cons t ts => exact kept.matchesAll_agree (by simp) finds (Nat.lt_succ_self _)

end Rounds

/-! ### Looking for a match ends -/

theorem looks_settleWithin {depth : Nat} {bound : DocId} {t : ScoringTree α}
    (deep_enough : t.depth ≤ depth) (positioned : Positioned model bound t) :
    Looks model t (settleWithin model depth t) := by
  induction depth generalizing t bound with
  | zero =>
    cases positioned with
    | leaf at_bound => exact .leaf
    | any | all => simp [ScoringTree.depth] at deep_enough
  | succ depth ih =>
    cases positioned with
    | leaf at_bound => exact .leaf
    | @any _ op args weights current one_suffices args_at =>
      have shallow := Nat.le_of_succ_le_succ deep_enough
      simp only [settleWithin, one_suffices, settleOnLeast]
      refine .least one_suffices (List.forall₂_map_right_iff.2 (List.forall₂_same.2 fun t ht => ?_))
      exact ih (Nat.le_trans (depth_le_depthAll ht) shallow) (args_at t ht)
    | @all _ reached op args weights current asks args_at none_between later =>
      have finds : Finds model (settleWithin model depth) args := by
        have deeper {t : ScoringTree α} (shallow : t.depth ≤ depthAll args) : t.depth ≤ depth :=
          Nat.le_trans shallow (Nat.le_of_succ_le_succ deep_enough)
        exact
          { settled := fun t shallow _ at_bound => settleWithin_settled (deeper shallow) at_bound
            moved := moved_settleWithin depth
            looks := fun t shallow _ at_bound => ih (deeper shallow) at_bound
            forward := forward_settleWithin depth }
      simp only [settleWithin, asks, if_true]
      exact .all asks (InRound.matchesAll_settleOnAll ⟨args_at, none_between, later⟩ finds)

section Positioned

variable {bound : DocId} {t part : ScoringTree α}

/-- Looking for the next match of a positioned tree ends. -/
theorem Positioned.looks_settle (positioned : Positioned model bound t) :
    Looks model t (t.settle model) :=
  looks_settleWithin (Nat.le_refl _) positioned

/-- What is within a positioned tree is positioned. -/
theorem Positioned.of_within (positioned : Positioned model bound t) (within : part.Within t) :
    ∃ reached, Positioned model reached part := by
  induction within generalizing bound with
  | self => exact ⟨bound, positioned⟩
  | arg member _ ih =>
    cases positioned with
    | any _ args_at => exact ih (args_at _ member)
    | all _ args_at _ _ => exact ih (args_at _ member)

variable {op : Operator} {args : List (ScoringTree α)} {weights : List α} {current : Option DocId}

theorem Positioned.exists_inRound
    (positioned : Positioned model bound (combine op args weights current)) :
    ∃ reached, InRound model bound reached args := by
  cases positioned with
  | any _ args_at => exact ⟨bound, args_at, fun _ reached _ => reached, Nat.le_refl bound⟩
  | all _ args_at none_between later => exact ⟨_, args_at, none_between, later⟩

/-- The rounds over the arguments of a positioned combination end. -/
theorem Positioned.matchesAll_settleOnAll
    (positioned : Positioned model bound (combine op args weights current)) :
    MatchesAll model args (settleOnAll (settle model) args).1
      (settleOnAll (settle model) args).2 := by
  obtain ⟨reached, kept⟩ := positioned.exists_inRound
  exact kept.matchesAll_settleOnAll
    { settled := fun _ _ _ at_bound => settle_settled at_bound
      moved := moved_settle
      looks := fun _ _ _ at_bound => at_bound.looks_settle
      forward := fun t => forward_settleWithin t.depth t }

end Positioned

end ScoringTree

/-! ### Both kinds of agreement -/

open ScoringTree

variable {α : Type}

/-- Aligning cursors comes to an end at the least document that all of them have ahead, and so
does looking for a match, in whatever state calls have left the trees within a tree. -/
theorem agreement_ends (model : RetrievalModel α) :
    (∀ cs : List Cursor, cs ≠ [] → Cursor.AllOrdered cs →
      Cursor.Aligns cs (Cursor.align cs) ∧ Cursor.Meets cs (Cursor.align cs)) ∧
    ∀ t : ScoringTree α, t.Initial → ∀ calls part, part.Within (after model calls t) →
      Looks model part (part.settle model) ∧
        ∀ op args weights current, part = combine op args weights current →
          MatchesAll model args (settleOnAll (settle model) args).1
            (settleOnAll (settle model) args).2 := by
  refine ⟨fun cs nonempty ordered => ⟨Cursor.aligns_align nonempty ordered,
    Cursor.meets_align nonempty ordered⟩, fun t initial calls part within => ?_⟩
  obtain ⟨bound, -, tracking⟩ : ∃ bound, _ ∧ Tracking model bound (after model calls t) :=
    initial.tracking_after calls
  obtain ⟨reached, positioned⟩ := tracking.positioned.of_within within
  refine ⟨positioned.looks_settle, ?_⟩
  rintro op args weights current rfl
  exact positioned.matchesAll_settleOnAll

/-- Three cursors of which one has moved, and an intersection of a union and an intersection that
has been moved between two searches. -/
theorem agreement_ends_nested :
    let list (docs : List DocId) : InvertedList := ⟨"body", docs.map fun doc => ⟨doc, [0]⟩⟩
    let cs := [Cursor.start (list [1, 3, 6]), (Cursor.start (list [0, 3, 5, 6])).advancePast 3,
      Cursor.start (list [2, 6])]
    let leafOver (docs : List DocId) : ScoringTree Number := leaf (Cursor.start (list docs)) 1
    let inner := combine .and [leafOver [0, 2, 4], leafOver [1, 2, 4, 7]] [] none
    let t := combine .and [combine .or [leafOver [1, 3], leafOver [2, 4]] [] none, inner] [] none
    let calls : List Call := [.hasMatch, .advancePast 2, .hasMatch]
    let model : RetrievalModel Number := .rankedBoolean
    ((Cursor.align cs).map Prod.fst = some 6 ∧ Cursor.Meets cs (Cursor.align cs)) ∧
      (after model calls t).current? = some 4 ∧
      Looks model (after model calls t) ((after model calls t).settle model) := by
  intro list cs leafOver inner t calls model
  have ordered : Cursor.AllOrdered cs := by
    unfold Cursor.AllOrdered Ordered
    decide +kernel
  have leaf_initial : ∀ docs, docs.Pairwise (· ≤ ·) → (leafOver docs).Initial := fun docs le =>
    .leaf (List.pairwise_map.2 le)
  have pair_initial {t u : ScoringTree Number} (first : t.Initial) (second : u.Initial)
      (op : Operator) : (combine op [t, u] [] none).Initial :=
    .combine (by simp [first, second])
  have initial : t.Initial :=
    pair_initial
      (pair_initial (leaf_initial _ (by decide)) (leaf_initial _ (by decide)) .or)
      (pair_initial (leaf_initial _ (by decide)) (leaf_initial _ (by decide)) .and) .and
  obtain ⟨aligning, looking⟩ := agreement_ends model
  exact ⟨⟨by decide +kernel, (aligning cs (by simp [cs]) ordered).2⟩, by decide +kernel,
    (looking t initial calls _ (.self _)).1⟩

end RankedRetrieval

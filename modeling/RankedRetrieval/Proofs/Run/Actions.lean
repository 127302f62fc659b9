import RankedRetrieval.Proofs.Files.Placing
import RankedRetrieval.Proofs.Outcome
import RankedRetrieval.Run.Action

/-!
# Runs step by step

What the steps of a run do to the files, and what a run writes for several queries.

## Main Results

* `Action.bind_eq` — a run goes on after a step that succeeds, and ends at one that fails
* `FileStore.fileAt?_rewrite` — what a file holds that has been created and written
* `Step.collect_append`, `Step.collect_insert` — what is written for some queries and then for
  others
* `Step.stop_collect_ofExcept`, `Step.join_collect_ofExcept` — what ends a run, and what is written
  before
-/

namespace RankedRetrieval

/-! ### Files that are created and written -/

namespace FileStore

variable {s : FileStore} {path : String} {l : Location}

/-- A store with a file that has been created and then written. -/
def rewrite (s : FileStore) (path text : String) (l : Location) : FileStore :=
  (s.update l fun _ => []).writeText path text

/-- What has been written is found where it was written, and all else is what it was. -/
theorem fileAt?_rewrite (reached : s.target path = .ok l) (kept : l.isDevice = false)
    (text : String) (k : Location) :
    (s.rewrite path text l).fileAt? k =
      if l = k then some (Text.encode text) else s.fileAt? k := by
  rw [rewrite, writeText, write, change, target_update _ reached]
  dsimp only
  rw [fileAt?_update kept, fileAt?_update kept, fileAt?_update kept]
  by_cases here : l = k
  · simp [here]
  · simp [here]

theorem target_rewrite {other : String} {k : Location} (reached : s.target path = .ok l)
    (found : s.target other = .ok k) (text : String) :
    (s.rewrite path text l).target other = .ok k := by
  rw [rewrite, writeText, write, change, target_update _ reached]
  exact target_update _ (target_update _ found)

/-- Only a device can be without room. -/
theorem isFull_eq_false (reached : s.target path = .ok l) (kept : l.isDevice = false) :
    s.isFull path = false := by
  have not_full : l ≠ Location.full := by
    rintro rfl
    simp [Location.isDevice] at kept
  simp [isFull, reached, Except.toOption, not_full]

end FileStore

/-! ### Actions -/

namespace Action

variable {β γ : Type} {a : Action β} {f : β → Action γ} {s t : FileStore} {path : String}
  {l : Location}

/-- A run goes on after a step that succeeds, and ends at one that fails. -/
theorem bind_eq (a : Action β) (f : β → Action γ) (s : FileStore) :
    (a >>= f) s = match a s with
      | (.ok b, t) => f b t
      | (.error e, t) => (.error e, t) := by
  show (match a s with | (outcome, t) => ExceptT.bindCont f outcome t) = _
  rcases a s with ⟨_ | _, t⟩ <;> rfl

theorem bind_ok {b : β} (ran : a s = (.ok b, t)) : (a >>= f) s = f b t := by
  rw [bind_eq, ran]

theorem bind_error {e : RunError} (failed : a s = (.error e, t)) :
    (a >>= f) s = (.error e, t) := by
  rw [bind_eq, failed]

theorem input_ok {read : FileStore → Except RunError β} {b : β} (found : read s = .ok b) :
    input read s = (.ok b, s) := by
  rw [input, found]

theorem create_ok (reached : s.target path = .ok l) :
    create path s = (.ok (), s.update l fun _ => []) := by
  rw [create, FileStore.create, reached]
  rfl

theorem write_ok (path text : String) (s : FileStore) :
    write path text s = (.ok (), s.writeText path text) := rfl

theorem stop_none (s : FileStore) : stop none s = (.ok (), s) := rfl

theorem stop_some (e : QueryError) (s : FileStore) :
    stop (some e) s = (.error (.query e), s) := rfl

theorem close_of_room (room : s.isFull path = false) (text : String) :
    close path text s = (.ok (), s) := by
  rw [close, room]
  rfl

theorem close_ok (reached : s.target path = .ok l) (kept : l.isDevice = false) (text : String) :
    close path text s = (.ok (), s) :=
  close_of_room (FileStore.isFull_eq_false reached kept) text

/-- Two files that are different ones are written one after the other. -/
theorem writeBoth_ok {other : String} {k : Location} (reached : s.target path = .ok l)
    (other_reached : s.target other = .ok k) (different : l ≠ k)
    (pieces : List (Writer.Side × String)) (last : Writer.Side) :
    writeBoth path other pieces last s =
      (.ok (), (s.writeText path (Writer.textOf .first pieces)).writeText other
        (Writer.textOf .second pieces)) := by
  have apart : s.sameFile path other = false := by
    rw [FileStore.sameFile, reached, other_reached]
    simp [different]
  rw [writeBoth, apart]
  rfl

end Action

/-! ### Steps -/

namespace Step

variable {β γ : Type} (step : β → Step γ)

/-- A step that does not end the run writes in front of the steps behind it. -/
theorem collect_cons {b : β} {written : γ} (taken : step b = ⟨written, none⟩) (bs : List β) :
    collect step (b :: bs) = (written :: (collect step bs).1, (collect step bs).2) := by
  rw [collect, taken]

/-- What is written for some queries and then for others. -/
theorem collect_append {before : List β} (runs_on : (collect step before).2 = none)
    (after : List β) :
    collect step (before ++ after) =
      ((collect step before).1 ++ (collect step after).1, (collect step after).2) := by
  induction before with
  | nil => rfl
  | cons b before ih =>
    rw [collect] at runs_on
    rw [List.cons_append, collect, collect]
    cases stop : (step b).stop? with
    | some e => simp [stop] at runs_on
    | none =>
      rw [stop] at runs_on
      dsimp only
      rw [ih runs_on]
      rfl

/-- Nothing is written behind the error that ends a run. -/
theorem collect_append_of_stopped {before : List β} (stopped : (collect step before).2 ≠ none)
    (after : List β) : collect step (before ++ after) = collect step before := by
  induction before with
  | nil => exact absurd rfl stopped
  | cons b before ih =>
    rw [collect] at stopped
    rw [List.cons_append, collect, collect]
    cases stop : (step b).stop? with
    | some e => rfl
    | none =>
      rw [stop] at stopped
      dsimp only
      rw [ih stopped]

/-- A query whose step does not end the run adds what it writes, and changes nothing else. -/
theorem collect_insert {b : β} {written : γ} (taken : step b = ⟨written, none⟩)
    (before after : List β) :
    collect step (before ++ b :: after) = collect step (before ++ after) ∨
      ∃ early late stop?, collect step (before ++ after) = (early ++ late, stop?) ∧
        collect step (before ++ b :: after) = (early ++ written :: late, stop?) := by
  by_cases runs_on : (collect step before).2 = none
  · refine .inr ⟨_, _, _, collect_append step runs_on after, ?_⟩
    rw [collect_append step runs_on, collect_cons step taken]
  · refine .inl ?_
    rw [collect_append_of_stopped step runs_on, collect_append_of_stopped step runs_on]

/-- The error that ends a run is that of the first step that fails. -/
theorem stop_collect_ofExcept (nothing : γ) (f : β → Except QueryError γ) (bs : List β) :
    (collect (fun b => ofExcept nothing (f b)) bs).2 = bs.findSome? fun b => (f b).failure? := by
  induction bs with
  | nil => rfl
  | cons b bs ih =>
    cases outcome : f b with
    | error e => simp [collect, ofExcept, outcome]
    | ok written =>
      have taken : ofExcept nothing (f b) = ⟨written, none⟩ := by rw [outcome, ofExcept]
      rw [collect, taken]
      simp [ih, outcome]

/-- Where no step fails, all of them write. -/
theorem collect_ofExcept_of_ok (nothing : γ) {f : β → Except QueryError γ} {bs : List β}
    (runs_on : bs.findSome? (fun b => (f b).failure?) = none) :
    collect (fun b => ofExcept nothing (f b)) bs =
      (bs.map fun b => (f b).toOption.getD nothing, none) := by
  induction bs with
  | nil => rfl
  | cons b bs ih =>
    cases outcome : f b with
    | error e => simp [outcome] at runs_on
    | ok written =>
      have taken : ofExcept nothing (f b) = ⟨written, none⟩ := by rw [outcome, ofExcept]
      rw [List.findSome?_cons, outcome] at runs_on
      rw [collect, taken, ih runs_on, List.map_cons, outcome]
      rfl

/-- Where a step that fails writes nothing, what is written is what the steps before the first
error write. -/
theorem join_collect_ofExcept (f : β → Except QueryError String) (bs : List β) :
    String.join (collect (fun b => ofExcept "" (f b)) bs).1 =
      String.join ((bs.takeWhile fun b => (f b).failure?.isNone).map fun b =>
        (f b).toOption.getD "") := by
  induction bs with
  | nil => rfl
  | cons b bs ih =>
    cases outcome : f b with
    | error e => simp [collect, ofExcept, outcome]
    | ok text =>
      have taken : ofExcept "" (f b) = ⟨text, none⟩ := by rw [outcome, ofExcept]
      rw [collect, taken]
      simp [ih, outcome, Except.toOption]

end Step

end RankedRetrieval

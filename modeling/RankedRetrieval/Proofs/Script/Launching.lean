import RankedRetrieval.Proofs.Run.Agreement
import RankedRetrieval.Proofs.Text.Lines
import RankedRetrieval.Script.Evaluation

/-!
# Scripts as programs

A file that begins with the path of a shell is run by that shell: it is given the path and the
arguments that the file was run with, and what it does to the files is what the commands of the
file do.

## Main Definitions

* `Script.Installed` — a script that can be run
* `Script.begun` — the state in which it begins

## Main Results

* `Script.launch_of_installed` — a script is run by a shell
* `Script.host_of_installed` — the host leaves the files as the commands of a script do
-/

namespace RankedRetrieval.Script

variable {s : FileStore} {path source : String} {arguments : List String}

/-- The text of a script with some commands. -/
def scriptText (source : String) : String := "#!/bin/sh\n" ++ source

/-- A script at a location that can be run from its path. -/
structure Installed (s : FileStore) (path source : String) (l : Location) : Prop where
  /-- The path is not taken for the name of a program. -/
  distant : path.toList.contains '/' = true
  /-- The path is not taken for an option. -/
  named : path.toList.head? ≠ some '-' ∧ path.toList.head? ≠ some '+'
  /-- It leads to the location. -/
  reached : s.target path = .ok l
  /-- What stands there can be run. -/
  runs : s.canRun l = true
  /-- It is the script. -/
  held : s.fileAt? l = some (Text.encode (scriptText source))
  /-- No file takes the place of the shell. -/
  shell : s.fileAt? ["", "bin", "sh"] = none

/-- A script stays where it is as long as its file and that of the shell are left alone. -/
theorem Installed.mono {t : FileStore} {ks : List Location} {l : Location}
    (installed : Installed s path source l) (agrees : s.AgreesOutside ks t)
    (runs : t.canRun l = true) (kept : l ∉ ks) (shell_kept : ["", "bin", "sh"] ∉ ks) :
    Installed t path source l where
  distant := installed.distant
  named := installed.named
  reached := agrees.target_eq installed.reached
  runs := runs
  held := (agrees.files l kept).trans installed.held
  shell := (agrees.files _ shell_kept).trans installed.shell

/-! ### Starting -/

/-- The path of the shell leads to where it is on every system. -/
theorem locate_sh (s : FileStore) : s.locate "/bin/sh" = .ok ["", "bin", "sh"] := by
  have usable : FileStore.pathError? "/bin/sh" = none := by decide
  have origin : Location.origin "/bin/sh" = [""] := by decide
  have names : Location.names "/bin/sh" = ["bin", "sh"] := by decide
  have root : s.hasDirectory [""] = true := by
    have always : Location.isSystemDirectory [""] = true := by decide
    rw [FileStore.hasDirectory, always, Bool.true_or]
  have bin : s.hasDirectory ["", "bin"] = true := by
    have always : Location.isSystemDirectory ["", "bin"] = true := by decide
    rw [FileStore.hasDirectory, always, Bool.true_or]
  have entered : Location.enter [""] "bin" = ["", "bin"] := by decide
  rw [FileStore.locate, usable]
  dsimp only
  rw [origin, names, FileStore.walk, root, if_neg (by decide), if_neg (by decide), entered,
    FileStore.walk, bin, if_neg (by decide), if_neg (by decide)]
  rfl

theorem read_sh (absent : s.fileAt? ["", "bin", "sh"] = none) :
    ∃ e, s.read "/bin/sh" = .error e := by
  rw [FileStore.read, FileStore.find, locate_sh]
  dsimp only
  rw [absent]
  cases s.hasDirectory ["", "bin", "sh"] with
  | true => exact ⟨_, rfl⟩
  | false => exact ⟨_, rfl⟩

/-- The first line of a script names the shell. -/
theorem reader?_scriptText (source : String) :
    Launch.reader? (Text.encode (scriptText source)) = some ("/bin/sh", []) := by
  have line : Text.encode "#!/bin/sh\n" = [35, 33, 47, 98, 105, 110, 47, 115, 104, 10] := by
    decide +kernel
  have shell : textOf [47, 98, 105, 110, 47, 115, 104] = "/bin/sh" := by decide +kernel
  have split : Text.encode (scriptText source) =
      35 :: 33 :: 47 :: 98 :: 105 :: 110 :: 47 :: 115 :: 104 :: 10 :: Text.encode source := by
    rw [scriptText, Text.encode_append, line]
    rfl
  rw [split]
  unfold Launch.reader?
  simp [shell, Filter.isGap]

/-- A script is run by a shell, which is given its path and its arguments. -/
theorem launch_of_installed {l : Location} (installed : Installed s path source l)
    (usable : (path :: arguments).any holdsNull = false) :
    launch s path arguments = .shell (path :: arguments) := by
  obtain ⟨e, absent⟩ := read_sh installed.shell
  have nonempty : path ≠ "" := by
    rintro rfl
    exact absurd installed.distant (by decide)
  have enough : 4 * arguments.length + 64 = 4 * arguments.length + 60 + 4 := rfl
  have system : Launch.systemName? ["", "bin", "sh"] = some "sh" := rfl
  have closed : Location.endsInSlash "/bin/sh" = false := by decide
  have known : Launch.shellNames.contains "sh" = true := by decide
  -- the script is read by the shell, which is no file and stands for itself
  rw [launch, usable, if_neg Bool.false_ne_true, enough, launchAny, if_neg nonempty,
    if_pos installed.distant, launchPath, FileStore.locate_of_target installed.reached,
    FileStore.read_of_target installed.reached installed.held]
  dsimp only
  rw [installed.runs, reader?_scriptText, deepestLink, if_neg (by decide)]
  dsimp only [List.nil_append]
  rw [launchPath, locate_sh, absent]
  dsimp only
  rw [system]
  dsimp only
  rw [closed, if_neg Bool.false_ne_true, launchNamed, if_pos known]

/-! ### Running -/

/-- The state in which a script begins that is run as a program. -/
def begun (s : FileStore) (path : String) (arguments : List String) : Shell :=
  Shell.start s path arguments (.text []) Shell.unread

namespace Shell

/-- A shell that is given a path runs the commands of that file. -/
theorem readInvocation?_of_named
    (named : path.toList.head? ≠ some '-' ∧ path.toList.head? ≠ some '+') :
    readInvocation? (path :: arguments) =
      some ⟨⟨false, false, false⟩, none, some path, path, arguments⟩ := by
  have other {word : String} (minus : word.toList.head? = some '-') : path ≠ word := by
    rintro rfl
    exact named.1 minus
  have switches : readSwitches? ⟨false, false, false⟩ false (path :: arguments) =
      some (⟨false, false, false⟩, false, path :: arguments) := by
    unfold readSwitches?
    split
    · rename_i given
      simp at given
    · rename_i given
      exact absurd (List.cons.inj given).1 (other rfl)
    · rename_i given
      exact absurd (List.cons.inj given).1 (other rfl)
    · rename_i given
      exact absurd (List.cons.inj given).1 (other rfl)
    · rename_i given
      obtain ⟨rfl, rfl⟩ := List.cons.inj given
      split
      · rename_i minus
        exact absurd (by rw [minus]; rfl) named.1
      · rename_i plus
        exact absurd (by rw [plus]; rfl) named.2
      · rfl
  rw [readInvocation?, switches]

/-- A text of one command is run by running the command. -/
theorem runSource_of_single {fuel : Nat} {source : String} {c : Command} {s : Shell}
    (parsed : parse source = ⟨[[c]], true⟩) :
    runSource (fuel + 5) source s = runCommand (fuel + 1) c (s.withStatus 0) := by
  rw [runSource, parsed]
  simp only [List.map_cons, List.map_nil, run, runCommand]
  simp

/-- A simple command without values for variables runs what its first word names, and then its
redirections end. -/
theorem runSimple_eq {fuel : Nat} {s inside : Shell} {name : String} {arguments : List String}
    {words : List Word} {redirections : List Redirection} (ordinary : name ∉ specialNames)
    (expanded : wordFields (fuel + 1) words { s with substituted? := none } =
      (name :: arguments, { s with substituted? := none }))
    (opened : redirect (fuel + 1) redirections { s with substituted? := none } = (true, inside))
    (running : s.goesOn = true) (inside_running : inside.goesOn = true) :
    runSimple (fuel + 2) [] words redirections s =
      { (runNamed (fuel + 1) name arguments inside).withStreamsOf s redirections with
        exported := s.exported } := by
  have on : ({ s with substituted? := none } : Shell).goesOn = true := running
  have no_exec : name ≠ "exec" := by
    rintro rfl
    exact ordinary (by decide)
  rw [runSimple, expanded]
  dsimp only
  rw [on, opened, Shell.bind]
  simp [inside_running, ordinary, no_exec]

end Shell

/-- A program that every system has is run by its name. -/
theorem launch_of_known {name : String} (known : Tool.isKnown name = true)
    (no_shell : Launch.shellNames.contains name = false) (no_env : name ≠ "env")
    (near : name.toList.contains '/' = false)
    (proper : name ≠ "" ∧ name ≠ "." ∧ name ≠ "..")
    (short : name.utf8ByteSize ≤ Location.longestName)
    (usable : (name :: arguments).any holdsNull = false) :
    launch s name arguments = .tool name arguments := by
  have enough : 4 * arguments.length + 64 = 4 * arguments.length + 62 + 2 := rfl
  rw [launch, usable, if_neg Bool.false_ne_true, enough, launchAny, if_neg proper.1, near,
    if_neg Bool.false_ne_true, if_neg (Nat.not_lt.2 short), if_neg (by simp [proper.2]),
    launchNamed, no_shell, if_neg Bool.false_ne_true, if_neg no_env, if_pos known]

/-- A script that comes to the end of its commands leaves the files as they do, and its status is
theirs. -/
theorem host_of_installed {l : Location} (installed : Installed s path source l)
    (usable : (path :: arguments).any holdsNull = false) {after : Shell}
    (ran : Shell.runSource 999999 (scriptText source) (begun s path arguments) = after)
    (ended : after.flow = .next) (unhandled : after.handlers.get? "EXIT" = none) :
    host path arguments s = (.exited after.status, after.store) := by
  have text : textOf (Text.encode (scriptText source)) = scriptText source := by
    rw [textOf, Text.decode?_encode]
    rfl
  have read : ((s.read path).toOption).map textOf = some (scriptText source) := by
    rw [FileStore.read_of_target installed.reached installed.held, Except.toOption,
      Option.map_some, text]
  have run : (Shell.start s "sh" [] (.text []) Shell.unread).runInvocation (999999 + 1)
      (path :: arguments) = after := by
    rw [Shell.runInvocation, Shell.readInvocation?_of_named installed.named]
    dsimp only [Shell.start]
    rw [read]
    show Shell.finish 999999 (Shell.runSource 999999 (scriptText source)
      (begun s path arguments)) = after
    rw [ran, Shell.finish, ended, unhandled]
  have limit : stepLimit = 999999 + 1 := rfl
  rw [host, launch_of_installed installed usable]
  dsimp only
  rw [limit, run, ended]

end RankedRetrieval.Script

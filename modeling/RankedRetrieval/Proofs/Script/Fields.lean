import RankedRetrieval.Proofs.Script.Patterns
import RankedRetrieval.Script.Evaluation

/-!
# Arguments of commands

The words of a command become its arguments.  Separating a word into fields loses nothing but
separators, and what stands in quotes is never separated: a quoted text is one argument, and all
arguments of a script, in quotes, are those arguments again, whatever they hold.

## Main Definitions

* `Shell.kept?` — what separation keeps of a piece
* `Shell.quotedParameter` — a parameter in quotes

## Main Results

* `Shell.flatten_fields` — the fields are the pieces without the separators
* `Shell.fields_argumentAtoms` — the fields of quoted arguments
* `Shell.wordFields_quoted` — quoted texts are handed on as they are
* `Shell.wordFields_arguments` — so are the arguments of a script
-/

namespace RankedRetrieval.Script.Shell

/-! ### Separation -/

/-- The character that separation keeps of a piece. -/
def kept? (separators : List Char) : Atom → Option Marked
  | .char c quoted splits =>
    if splits && separators.contains c then none else some (c, quoted)
  | .quotes | .border => none

theorem flatten_fieldsAfter (separators : List Char) (field? : Option (List Marked))
    (closed : Bool) (pieces : List Atom) :
    (fieldsAfter separators field? closed pieces).flatten =
      (field?.getD []).reverse ++ pieces.filterMap (kept? separators) := by
  induction pieces generalizing field? closed with
  | nil => cases field? <;> simp [fieldsAfter]
  | cons piece rest ih =>
    cases piece with
    | quotes => simp [fieldsAfter, List.filterMap_cons, kept?, ih]
    | border => cases field? <;> simp [fieldsAfter, List.filterMap_cons, kept?, ih]
    | char c quoted splits =>
      rw [fieldsAfter]
      split
      · -- a separator ends a field, or the empty one that nothing has begun
        rename_i separates
        have dropped : kept? separators (.char c quoted splits) = none := if_pos separates
        cases field? with
        | some field => simp [ih, dropped]
        | none =>
          dsimp only
          split
          · simp [ih, dropped]
          · split <;> simp [ih, dropped]
      · rename_i stays
        have kept : kept? separators (.char c quoted splits) = some (c, quoted) := if_neg stays
        simp [ih, kept]

/-- Separating pieces into fields loses nothing but separators. -/
theorem flatten_fields (s : Shell) (pieces : List Atom) :
    (s.fields pieces).flatten = pieces.filterMap (kept? s.separators) :=
  flatten_fieldsAfter s.separators none false pieces

/-! ### Quotes -/

/-- Characters that cannot separate fields go to the end of the field that has begun. -/
theorem fieldsAfter_atoms (separators : List Char) (field : List Marked) (quoted : Bool)
    (text : String) (rest : List Atom) :
    fieldsAfter separators (some field) false (atoms quoted false text ++ rest) =
      fieldsAfter separators
        (some ((text.toList.map fun c => (c, quoted)).reverse ++ field)) false rest := by
  rw [atoms]
  induction text.toList generalizing field with
  | nil => rfl
  | cons c cs ih =>
    rw [List.map_cons, List.cons_append, fieldsAfter, Bool.false_and, if_neg Bool.false_ne_true,
      Option.getD_some, ih]
    simp

/-- A quoted text is a field, even when it is empty. -/
theorem fieldsAfter_quoted (separators : List Char) (closed : Bool) (text : String) :
    fieldsAfter separators none closed (.quotes :: atoms true false text) =
      [Marked.quoted text.toList] := by
  have read := fieldsAfter_atoms separators [] true text []
  rw [List.append_nil] at read
  rw [fieldsAfter, Option.getD_none, read]
  simp [fieldsAfter, Marked.quoted]

/-- Arguments in quotes are as many fields, whatever characters they hold. -/
theorem fields_argumentAtoms (s : Shell) (arguments : List String) :
    s.fields (argumentAtoms true arguments) =
      arguments.map fun text => Marked.quoted text.toList := by
  rw [fields]
  induction arguments with
  | nil => rfl
  | cons text rest ih =>
    cases rest with
    | nil => exact fieldsAfter_quoted s.separators false text
    | cons next others =>
      have begun : argumentAtoms true (text :: next :: others) =
          .quotes :: (atoms true false text ++ .border :: argumentAtoms true (next :: others)) :=
        rfl
      rw [begun, fieldsAfter, Option.getD_none, fieldsAfter_atoms, fieldsAfter, ih]
      simp [Marked.quoted]

/-- A field in quotes does not stand for paths. -/
theorem expandPaths_quoted (s : Shell) (text : String) :
    s.expandPaths (Marked.quoted text.toList) = [text] := by
  have closed : Pattern.isOpen (Marked.quoted text.toList) = false := by
    simp [Pattern.isOpen, Marked.quoted]
  have itself : Marked.text (Marked.quoted text.toList) = text := by
    simp [Marked.text, Marked.quoted, Function.comp_def]
  rw [expandPaths, closed, Bool.and_false, itself]
  rfl

theorem flatMap_expandPaths_quoted (s : Shell) (texts : List String) :
    (texts.map fun text => Marked.quoted text.toList).flatMap s.expandPaths = texts := by
  rw [List.flatMap_map]
  simp only [expandPaths_quoted, List.flatMap_singleton']

/-! ### Words -/

/-- What stands between single quotes is read as it is, up to the next single quote. -/
theorem readWord?_quoted {stops : Char → Bool} {fuel : Nat} {parts : Word} {text : List Char}
    {rest : List Char} (plain : '\x27' ∉ text) :
    readWord? stops (fuel + 1) .bare parts ('\x27' :: (text ++ '\x27' :: rest)) =
      readWord? stops fuel .bare (parts.addText (String.ofList text) true) rest := by
  have all_before : ∀ c ∈ text, decide (c ≠ '\x27') = true := fun c member =>
    decide_eq_true fun quote => plain (quote ▸ member)
  have inside : (text ++ '\x27' :: rest).takeWhile (· ≠ '\x27') = text := by
    rw [List.takeWhile_append_of_pos all_before]
    simp
  have behind : (text ++ '\x27' :: rest).dropWhile (· ≠ '\x27') = '\x27' :: rest := by
    rw [List.dropWhile_append_of_pos all_before]
    simp
  rw [readWord?.eq_def]
  dsimp only
  rw [if_neg (by decide), if_pos rfl, behind]
  dsimp only
  rw [inside]

/-- A text without single quotes, between single quotes, is a word of that text. -/
theorem wholeWord?_quoted {text : String} (plain : '\x27' ∉ text.toList) :
    wholeWord? .bare ("\x27" ++ text ++ "\x27") = some [.literal text true] := by
  have written : ("\x27" ++ text ++ "\x27").toList = '\x27' :: (text.toList ++ ['\x27']) := by
    simp
  have steps : ("\x27" ++ text ++ "\x27").length = text.length + 2 := by
    have quote : "\x27".length = 1 := rfl
    rw [String.length_append, String.length_append, quote]
    omega
  rw [wholeWord?, written, steps, readWord?_quoted plain, readWord?]
  simp [Word.addText]

section Expansion

variable {fuel : Nat} {s : Shell} {rest : List Word}

/-- The arguments of a word go in front of those of the words behind it. -/
theorem wordFields_cons {w : Word} {pieces : List Atom} (running : s.goesOn = true)
    (evaluated : wordAtoms fuel w s = (pieces, s)) :
    let vanishes := s.arguments.isEmpty && w.contains (.parameter "@" true)
    let kept := if vanishes then pieces.filter (· ≠ .quotes) else pieces
    wordFields (fuel + 1) (w :: rest) s =
      ((s.fields kept).flatMap s.expandPaths ++ (wordFields fuel rest s).1,
        (wordFields fuel rest s).2) := by
  rw [wordFields, evaluated]
  simp only [running, Bool.not_true, Bool.false_eq_true, if_false]

/-- A quoted text is an argument as it stands. -/
theorem wordFields_cons_quoted (text : String) (running : s.goesOn = true) :
    wordFields (fuel + 3) ([.literal text true] :: rest) s =
      (text :: (wordFields (fuel + 2) rest s).1, (wordFields (fuel + 2) rest s).2) := by
  have evaluated : wordAtoms (fuel + 2) [.literal text true] s =
      (.quotes :: atoms true false text, s) := by
    simp [wordAtoms, partAtoms, running]
  have field : s.fields (.quotes :: atoms true false text) = [Marked.quoted text.toList] :=
    fieldsAfter_quoted s.separators false text
  rw [wordFields_cons running evaluated]
  simp [field, expandPaths_quoted]

/-- A text without quotes is an argument as it stands, if no pattern is in it. -/
theorem wordFields_cons_plain {text : String} (running : s.goesOn = true) (nonempty : text ≠ "")
    (closed : Pattern.isOpen (text.toList.map fun c => (c, false)) = false) :
    wordFields (fuel + 3) ([.literal text false] :: rest) s =
      (text :: (wordFields (fuel + 2) rest s).1, (wordFields (fuel + 2) rest s).2) := by
  have evaluated : wordAtoms (fuel + 2) [.literal text false] s = (atoms false false text, s) := by
    simp [wordAtoms, partAtoms, running]
  have field : s.fields (atoms false false text) = [text.toList.map fun c => (c, false)] := by
    obtain ⟨c, cs, split⟩ : ∃ c cs, text.toList = c :: cs :=
      List.exists_cons_of_ne_nil fun empty => nonempty (String.toList_eq_nil_iff.1 empty)
    have read := fieldsAfter_atoms s.separators [(c, false)] false (String.ofList cs) []
    rw [List.append_nil, atoms, String.toList_ofList] at read
    rw [fields, atoms, split, List.map_cons, fieldsAfter, Bool.false_and,
      if_neg Bool.false_ne_true, Option.getD_none, read]
    simp [fieldsAfter]
  have itself : s.expandPaths (text.toList.map fun c => (c, false)) = [text] := by
    simp [expandPaths, closed, Marked.text, Function.comp_def]
  rw [wordFields_cons running evaluated]
  simp [field, itself]

/-- The word that a quoted parameter makes up. -/
def quotedParameter (name : String) : Word := [.literal "" true, .parameter name true]

/-- The value of a quoted parameter is an argument as it stands. -/
theorem wordFields_cons_parameter {name value : String} (running : s.goesOn = true)
    (single : name ≠ "@") (held : s.value? name = some value) :
    wordFields (fuel + 4) (quotedParameter name :: rest) s =
      (value :: (wordFields (fuel + 3) rest s).1, (wordFields (fuel + 3) rest s).2) := by
  have evaluated : wordAtoms (fuel + 3) (quotedParameter name) s =
      (.quotes :: atoms true false value, s) := by
    simp [quotedParameter, wordAtoms, partAtoms, running, single, held, atoms]
  have field : s.fields (.quotes :: atoms true false value) = [Marked.quoted value.toList] :=
    fieldsAfter_quoted s.separators false value
  have kept : (quotedParameter name).contains (.parameter "@" true) = false := by
    simp [quotedParameter, single.symm]
  rw [wordFields_cons running evaluated, kept]
  simp [field, expandPaths_quoted]

/-- Quoted texts are handed on as they are. -/
theorem wordFields_quoted (texts : List String) (running : s.goesOn = true)
    (enough : texts.length + 3 ≤ fuel) :
    wordFields fuel (texts.map fun text => [.literal text true]) s = (texts, s) := by
  induction texts generalizing fuel with
  | nil =>
    obtain ⟨fuel, rfl⟩ := Nat.exists_eq_add_of_le' enough
    rw [List.map_nil, List.length_nil, Nat.zero_add, wordFields]
  | cons text texts ih =>
    obtain ⟨fuel, rfl⟩ := Nat.exists_eq_add_of_le' enough
    rw [List.length_cons] at enough ⊢
    rw [List.map_cons, ← Nat.add_assoc, wordFields_cons_quoted text running, ih (by omega)]

/-- All arguments of a script, in quotes, are those arguments again. -/
theorem wordFields_arguments (running : s.goesOn = true) :
    wordFields (fuel + 4) [quotedParameter "@"] s = (s.arguments, s) := by
  have evaluated : wordAtoms (fuel + 3) (quotedParameter "@") s =
      (.quotes :: argumentAtoms true s.arguments, s) := by
    simp [quotedParameter, wordAtoms, partAtoms, running, atoms]
  have expanded : (s.fields (if s.arguments.isEmpty then
      (Atom.quotes :: argumentAtoms true s.arguments).filter (· ≠ .quotes)
      else .quotes :: argumentAtoms true s.arguments)).flatMap s.expandPaths = s.arguments := by
    cases arguments : s.arguments with
    | nil => rfl
    | cons first others =>
      have begun : s.fields (.quotes :: argumentAtoms true (first :: others)) =
          s.fields (argumentAtoms true (first :: others)) := by
        cases others <;> rfl
      rw [List.isEmpty_cons, if_neg Bool.false_ne_true, begun, fields_argumentAtoms,
        flatMap_expandPaths_quoted]
  rw [wordFields_cons running evaluated]
  simpa [quotedParameter, wordFields] using expanded

example : wholeWord? .bare "\"$@\"" = some (quotedParameter "@") := by decide

end Expansion

end RankedRetrieval.Script.Shell

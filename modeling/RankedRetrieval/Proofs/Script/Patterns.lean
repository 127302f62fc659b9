import Mathlib.Data.List.Range
import Mathlib.Order.Bounds.Basic
import RankedRetrieval.Script.Pattern

/-!
# Texts that patterns describe

A pattern describes a text piece by piece, and a piece for any text may take up as much of it as
the rest of the pattern leaves.  The search for such a division is complete, and the modifiers of
parameters take away the shortest or the longest part that a pattern describes.

## Main Definitions

* `Marked.quoted` — characters in quotes
* `Pattern.Describes` — the texts of the form of a pattern
* `Pattern.fronts`, `Pattern.backs` — the places where a part of that form ends, or begins

## Main Results

* `Pattern.accepts_iff` — exactly the described texts are accepted
* `Pattern.accepts_ofMarked_quoted` — in quotes, characters describe themselves only
* `Pattern.trim_front`, `Pattern.trim_back` — which part a modifier takes away
* `Pattern.trim_prefix`, `Pattern.trim_suffix` — a part in quotes is taken away from either side
-/

namespace RankedRetrieval.Script

/-- Characters in quotes. -/
def Marked.quoted (cs : List Char) : List Marked :=
  cs.map fun c => (c, true)

namespace Pattern

variable {pattern : Pattern} {cs : List Char}

/-! ### The form of a text -/

/-- A text is of the form of a pattern. -/
inductive Describes : Pattern → List Char → Prop
  /-- Nothing describes the empty text. -/
  | nil : Describes [] []
  /-- A piece that accepts a character describes it in front of a described text. -/
  | char {piece : PatternPiece} {c : Char} {pattern : Pattern} {cs : List Char}
      (single : piece ≠ .many) (accepted : acceptsChar piece c = true)
      (rest : Describes pattern cs) : Describes (piece :: pattern) (c :: cs)
  /-- A piece for any text describes whatever stands in front of a described text. -/
  | many {pattern : Pattern} {cs : List Char} (text : List Char) (rest : Describes pattern cs) :
      Describes (.many :: pattern) (text ++ cs)

theorem describes_of_accepts (accepted : pattern.accepts cs = true) : Describes pattern cs := by
  fun_induction accepts pattern cs with
  | case1 cs =>
    obtain rfl := List.isEmpty_iff.1 accepted
    exact .nil
  | case2 rest ih => exact .many [] (ih accepted)
  | case3 rest c cs here beyond =>
    rcases Bool.or_eq_true_iff.1 accepted with stops | goes_on
    · exact .many [] (here stops)
    · -- the piece takes up `c` on top of what it takes up of the rest
      cases beyond goes_on with
      | char single => exact absurd rfl single
      | many text rest => exact .many (c :: text) rest
  | case4 => simp at accepted
  | case5 piece rest c cs single ih =>
    obtain ⟨first, others⟩ := Bool.and_eq_true_iff.1 accepted
    exact .char single first (ih others)

theorem accepts_many {text : List Char} (accepted : pattern.accepts cs = true) :
    accepts (.many :: pattern) (text ++ cs) = true := by
  induction text with
  | nil =>
    cases cs with
    | nil => rw [List.nil_append, accepts, accepted]
    | cons c cs => rw [List.nil_append, accepts, accepted, Bool.true_or]
  | cons c text ih => rw [List.cons_append, accepts, ih, Bool.or_true]

theorem accepts_of_describes (described : Describes pattern cs) :
    pattern.accepts cs = true := by
  induction described with
  | nil => rw [accepts, List.isEmpty_nil]
  | char single accepted rest ih =>
    rw [accepts, accepted, ih, Bool.and_self]
    exact single
  | many text rest ih => exact accepts_many ih

/-- Exactly the texts of the form of a pattern are accepted. -/
theorem accepts_iff : pattern.accepts cs = true ↔ Describes pattern cs :=
  ⟨describes_of_accepts, accepts_of_describes⟩

/-! ### Quoted characters -/

theorem describes_map_char {text : List Char} :
    Describes (text.map .char) cs ↔ cs = text := by
  constructor
  · intro described
    induction text generalizing cs with
    | nil =>
      cases described
      rfl
    | cons c text ih =>
      cases described with
      | char single accepted rest =>
        obtain rfl := of_decide_eq_true accepted
        rw [ih rest]
  · rintro rfl
    induction cs with
    | nil => exact .nil
    | cons c cs ih => exact .char PatternPiece.noConfusion (decide_eq_true rfl) ih

theorem ofMarked_quoted (text : List Char) :
    ofMarked (Marked.quoted text) = text.map .char := by
  have all_pieces (fuel : Nat) (enough : text.length < fuel) :
      pieces fuel (Marked.quoted text) = text.map .char := by
    induction text generalizing fuel with
    | nil =>
      obtain ⟨fuel, rfl⟩ := Nat.exists_eq_add_of_lt enough
      rfl
    | cons c text ih =>
      cases fuel with
      | zero => simp at enough
      | succ fuel =>
        rw [Marked.quoted, List.map_cons, pieces, ← Marked.quoted,
          ih fuel (Nat.lt_of_succ_lt_succ enough), List.map_cons]
  rw [ofMarked, Marked.quoted, List.length_map]
  exact all_pieces _ (Nat.lt_succ_self _)

/-- In quotes, characters describe themselves only. -/
theorem accepts_ofMarked_quoted {text : List Char} :
    (ofMarked (Marked.quoted text)).accepts cs = true ↔ cs = text := by
  rw [accepts_iff, ofMarked_quoted, describes_map_char]

/-! ### Parts that are taken away -/

/-- The places where a described part ends that stands in front of a text. -/
def fronts (pattern : Pattern) (cs : List Char) : Set Nat :=
  {n | n ≤ cs.length ∧ Describes pattern (cs.take n)}

/-- The places where a described part begins that stands at the end of a text. -/
def backs (pattern : Pattern) (cs : List Char) : Set Nat :=
  {n | n ≤ cs.length ∧ Describes pattern (cs.drop n)}

/-- Of sorted places, the one is found that none of those that are looked for stands before. -/
theorem find?_eq_some_of_sorted {before : Nat → Nat → Prop} {p : Nat → Bool} {places : List Nat}
    {n : Nat} (sorted : places.Pairwise before) (member : n ∈ places) (wanted : p n = true)
    (first : ∀ k ∈ places, p k = true → ¬ before k n) : places.find? p = some n := by
  induction places with
  | nil => simp at member
  | cons k places ih =>
    obtain ⟨ahead, sorted⟩ := List.pairwise_cons.1 sorted
    obtain ⟨here, later⟩ := List.forall_mem_cons.1 first
    rcases List.mem_cons.1 member with rfl | beyond
    · exact List.find?_cons_of_pos wanted
    · rw [List.find?_cons_of_neg fun found => here found (ahead n beyond)]
      exact ih sorted beyond later

section Places

variable {p : Nat → Bool} {length n : Nat}

theorem find?_range_eq_some (least : IsLeast {k | k ≤ length ∧ p k = true} n) :
    (List.range (length + 1)).find? p = some n :=
  find?_eq_some_of_sorted List.pairwise_lt_range
    (List.mem_range.2 (Nat.lt_succ_of_le least.1.1)) least.1.2 fun _ member wanted =>
      Nat.not_lt.2 (least.2 ⟨Nat.le_of_lt_succ (List.mem_range.1 member), wanted⟩)

theorem find?_reverse_range_eq_some (greatest : IsGreatest {k | k ≤ length ∧ p k = true} n) :
    (List.range (length + 1)).reverse.find? p = some n :=
  find?_eq_some_of_sorted (List.pairwise_reverse.2 List.pairwise_lt_range)
    (List.mem_reverse.2 (List.mem_range.2 (Nat.lt_succ_of_le greatest.1.1))) greatest.1.2
    fun _ member wanted => Nat.not_lt.2 (greatest.2
      ⟨Nat.le_of_lt_succ (List.mem_range.1 (List.mem_reverse.1 member)), wanted⟩)

end Places

section Sides

variable {part left : Nat → List Char}

/-- What is left of a text is what stands beside the first described part. -/
theorem dropPart_map (places : List Nat) :
    dropPart pattern cs (places.map fun n => (part n, left n)) =
      ((places.find? fun n => pattern.accepts (part n)).map left).getD cs := by
  rw [dropPart, List.find?_map, Option.map_map]
  rfl

/-- Without a described part nothing is taken away. -/
theorem dropPart_of_none {parts : List (List Char × List Char)}
    (none_described : ∀ sides ∈ parts, ¬ Describes pattern sides.1) :
    dropPart pattern cs parts = cs := by
  have missed : parts.find? (fun sides => pattern.accepts sides.1) = none :=
    List.find?_eq_none.2 fun sides member accepted =>
      none_described sides member (accepts_iff.1 accepted)
  rw [dropPart, missed]
  rfl

theorem dropPart_range {length n : Nat}
    (least : IsLeast {k | k ≤ length ∧ Describes pattern (part k)} n) :
    dropPart pattern cs ((List.range (length + 1)).map fun n => (part n, left n)) = left n := by
  simp only [← accepts_iff] at least
  rw [dropPart_map, find?_range_eq_some least]
  rfl

theorem dropPart_reverse_range {length n : Nat}
    (greatest : IsGreatest {k | k ≤ length ∧ Describes pattern (part k)} n) :
    dropPart pattern cs ((List.range (length + 1)).map fun n => (part n, left n)).reverse =
      left n := by
  simp only [← accepts_iff] at greatest
  rw [← List.map_reverse, dropPart_map, find?_reverse_range_eq_some greatest]
  rfl

end Sides

theorem sides_swap (cs : List Char) : (sides cs).map Prod.swap =
    (List.range (cs.length + 1)).map fun n => (cs.drop n, cs.take n) := by
  rw [sides, List.map_map]
  rfl

/-- A modifier that looks for parts in front takes away the shortest described one, or the longest
one if it is doubled, and nothing if there is none. -/
theorem trim_front (pattern : Pattern) (cs : List Char) :
    (pattern.fronts cs = ∅ → trim "#" pattern cs = cs ∧ trim "##" pattern cs = cs) ∧
    ∀ n, (IsLeast (pattern.fronts cs) n → trim "#" pattern cs = cs.drop n) ∧
      (IsGreatest (pattern.fronts cs) n → trim "##" pattern cs = cs.drop n) := by
  refine ⟨fun empty => ?_, fun n => ⟨dropPart_range, dropPart_reverse_range⟩⟩
  have none_described : ∀ parts ∈ sides cs, ¬ Describes pattern parts.1 := by
    rw [sides, List.forall_mem_map]
    exact fun n member described => Set.eq_empty_iff_forall_notMem.1 empty n
      ⟨Nat.le_of_lt_succ (List.mem_range.1 member), described⟩
  exact ⟨dropPart_of_none none_described,
    dropPart_of_none fun parts member => none_described parts (List.mem_reverse.1 member)⟩

/-- A modifier that looks for parts at the end takes away the shortest described one, or the
longest one if it is doubled, and nothing if there is none. -/
theorem trim_back (pattern : Pattern) (cs : List Char) :
    (pattern.backs cs = ∅ → trim "%" pattern cs = cs ∧ trim "%%" pattern cs = cs) ∧
    ∀ n, (IsGreatest (pattern.backs cs) n → trim "%" pattern cs = cs.take n) ∧
      (IsLeast (pattern.backs cs) n → trim "%%" pattern cs = cs.take n) := by
  simp only [trim, sides_swap]
  refine ⟨fun empty => ?_, fun n => ⟨dropPart_reverse_range, dropPart_range⟩⟩
  have none_described : ∀ parts ∈ (List.range (cs.length + 1)).map
      fun n => (cs.drop n, cs.take n), ¬ Describes pattern parts.1 := by
    rw [List.forall_mem_map]
    exact fun n member described => Set.eq_empty_iff_forall_notMem.1 empty n
      ⟨Nat.le_of_lt_succ (List.mem_range.1 member), described⟩
  exact ⟨dropPart_of_none fun parts member => none_described parts (List.mem_reverse.1 member),
    dropPart_of_none none_described⟩

/-- A text in quotes is taken away from the front of another one. -/
theorem trim_prefix (text rest : List Char) :
    trim "#" (ofMarked (Marked.quoted text)) (text ++ rest) = rest := by
  have only : (ofMarked (Marked.quoted text)).fronts (text ++ rest) = {text.length} := by
    ext n
    rw [fronts, Set.mem_ofPred_eq, ofMarked_quoted, describes_map_char, Set.mem_singleton_iff]
    constructor
    · rintro ⟨within, front⟩
      have lengths := congrArg List.length front
      rwa [List.length_take, Nat.min_eq_left within] at lengths
    · rintro rfl
      exact ⟨by simp, List.take_left⟩
  rw [((trim_front _ _).2 text.length).1 (only ▸ isLeast_singleton), List.drop_left]

/-- A text in quotes is taken away from the end of another one. -/
theorem trim_suffix (text before : List Char) :
    trim "%" (ofMarked (Marked.quoted text)) (before ++ text) = before := by
  have only : (ofMarked (Marked.quoted text)).backs (before ++ text) =
      {before.length} := by
    ext n
    rw [backs, Set.mem_ofPred_eq, ofMarked_quoted, describes_map_char, Set.mem_singleton_iff]
    constructor
    · rintro ⟨within, back⟩
      have lengths := congrArg List.length back
      rw [List.length_append] at within
      rw [List.length_drop, List.length_append] at lengths
      omega
    · rintro rfl
      exact ⟨by simp, List.drop_left⟩
  rw [((trim_back _ _).2 before.length).1 (only ▸ isGreatest_singleton), List.take_left]

end Pattern

end RankedRetrieval.Script

import Mathlib.Tactic.SplitIfs
import RankedRetrieval.Proofs.Query.Grammar

/-!
# Nesting of operators

What a text closes and what it opens, and what becomes of a text that stands inside an operator.

## Main Definitions

* `Token.depthAfter?` — how many operators are open after some tokens
* `Query.WithinItself` — a text that closes nothing but what it has opened

## Main Results

* `Query.isQueryLocal_of_parse` — every error of parsing is confined to its query
* `Arguments.depthAfter?_eq` — arguments close exactly what they open
* `Query.arguments_of_enclosed` — a text that is read inside an operator is made of arguments

## Design Notes

**Only the count of open operators matters.**  The parser takes an operator to be closed by the
first parenthesis that is left for it, wherever that comes from.  A text that stands inside an
operator can therefore end it early.  A text that never closes more than it has opened cannot,
and since the tokens behind it are balanced, it has to be balanced as well.
-/

namespace RankedRetrieval

/-- How many operators are open after some tokens; nothing when there is a parenthesis with
nothing to close. -/
def Token.depthAfter? : Nat → List Token → Option Nat
  | depth, [] => some depth
  | 0, .close :: _ => none
  | depth + 1, .close :: rest => depthAfter? depth rest
  | depth, .word spelling :: rest =>
    match Token.keyword? spelling with
    | .ok (some _) => depthAfter? (depth + 1) rest
    | _ => depthAfter? depth rest

namespace Query

open Token

/-- A text that closes nothing but what it has opened. -/
def WithinItself (source : String) : Prop := (depthAfter? 0 (lex source)).isSome = true

instance : DecidablePred WithinItself := fun source =>
  inferInstanceAs (Decidable ((depthAfter? 0 (lex source)).isSome = true))

/-! ### Errors of parsing -/

section Errors

variable {α : Type} [NatCast α] [Numeral α]

theorem isQueryLocal_of_keyword? {word : String} {e : QueryError}
    (failed : keyword? word = .error e) : e.isQueryLocal = true := by
  have of_distance {digits : String} {make : Nat → Operator}
      (failed : (distance word digits).map (fun n => some (make n)) = .error e) :
      e.isQueryLocal = true := by
    unfold distance at failed
    split at failed
    · simp [Except.map] at failed
    · obtain rfl : QueryError.invalidDistance word = e := by simpa [Except.map] using failed
      rfl
  rcases keyword?_cases word with ⟨_, _, _, found⟩ | ⟨_, _, found⟩ | ⟨_, _, found⟩ | ⟨_, found⟩
  · simp [found] at failed
  · exact of_distance (found.symm.trans failed)
  · exact of_distance (found.symm.trans failed)
  · simp [found] at failed

theorem isQueryLocal_of_readWord {top : Frame α} {word : String} {e : QueryError}
    (failed : readWord top word = .error e) : e.isQueryLocal = true := by
  unfold readWord at failed
  split_ifs at failed with expects
  · split at failed
    · simp at failed
    · obtain rfl : QueryError.missingWeight word = e := by simpa using failed
      rfl
  · cases split : splitField word with
    | ok sides => simp [split, Except.map] at failed
    | error cause =>
      obtain rfl : cause = e := by simpa [split, Except.map] using failed
      unfold splitField at split
      split at split
      · simp at split
      · dsimp only at split
        split_ifs at split
        obtain rfl : QueryError.unknownField word = cause := by simpa using split
        rfl

/-- Every error of reading tokens is confined to its query. -/
theorem isQueryLocal_of_parseTokens {source : String} {top : Frame α} {outer : List (Frame α)}
    {tokens : List Token} {e : QueryError}
    (failed : parseTokens source top outer tokens = .error e) : e.isQueryLocal = true := by
  induction tokens generalizing top outer with
  | nil =>
    obtain rfl : QueryError.unbalanced source = e := by simpa [parseTokens] using failed
    rfl
  | cons token rest ih =>
    cases token with
    | close =>
      cases outer with
      | nil =>
        rw [parseTokens] at failed
        split_ifs at failed
        obtain rfl : QueryError.trailingTokens _ = e := by simpa using failed
        rfl
      | cons parent others =>
        rw [parseTokens] at failed
        split at failed
        · exact ih failed
        · rename_i cause attached
          obtain rfl : cause = e := by simpa using failed
          unfold Frame.attach at attached
          split_ifs at attached
          split at attached
          · simp at attached
          · obtain rfl : QueryError.missingWeight _ = cause := by simpa using attached
            rfl
    | word word =>
      rw [parseTokens] at failed
      split at failed
      · rename_i cause unrecognised
        obtain rfl : cause = e := by simpa using failed
        exact isQueryLocal_of_keyword? unrecognised
      · exact ih failed
      · split at failed
        · exact ih failed
        · rename_i cause unread
          obtain rfl : cause = e := by simpa using failed
          exact isQueryLocal_of_readWord unread

/-- Every error of parsing is confined to its query. -/
theorem isQueryLocal_of_parse {default : Operator} {source : String} {e : QueryError}
    (failed : parse (α := α) default source = .error e) : e.isQueryLocal = true := by
  unfold parse at failed
  cases read : parseTokens (α := α) source (Frame.start default) [] (lex source ++ [.close]) with
  | ok q => simp [read, Except.map] at failed
  | error cause =>
    obtain rfl : cause = e := by simpa [read, Except.map] using failed
    exact isQueryLocal_of_parseTokens read

end Errors

/-! ### Depth -/

theorem depthAfter?_append (depth : Nat) (tokens others : List Token) :
    depthAfter? depth (tokens ++ others) =
      (depthAfter? depth tokens).bind fun reached => depthAfter? reached others := by
  induction tokens generalizing depth with
  | nil => rfl
  | cons token tokens ih =>
    cases token with
    | close =>
      cases depth with
      | zero => rfl
      | succ depth => exact ih depth
    | word spelling =>
      rw [List.cons_append, depthAfter?, depthAfter?]
      split
      · exact ih (depth + 1)
      · exact ih depth

/-- What happens above a depth happens above any greater depth. -/
theorem depthAfter?_add {depth reached : Nat} {tokens : List Token}
    (within : depthAfter? depth tokens = some reached) (around : Nat) :
    depthAfter? (depth + around) tokens = some (reached + around) := by
  induction tokens generalizing depth with
  | nil =>
    obtain rfl := Option.some.inj within
    rfl
  | cons token tokens ih =>
    cases token with
    | close =>
      cases depth with
      | zero => simp [depthAfter?] at within
      | succ depth =>
        rw [Nat.add_right_comm]
        exact ih within
    | word spelling =>
      rw [depthAfter?] at within ⊢
      split at within
      · have deeper := ih within
        rwa [Nat.add_right_comm] at deeper
      · exact ih within

theorem depthAfter?_keyword {word : String} {op : Operator} (keyword : Keyword word op)
    (depth : Nat) (rest : List Token) :
    depthAfter? depth (.word word :: rest) = depthAfter? (depth + 1) rest := by
  rw [depthAfter?, keyword?_eq_some_iff.2 keyword]

theorem depthAfter?_free {word : String} (free : ¬ Reserved word) (depth : Nat)
    (rest : List Token) : depthAfter? depth (.word word :: rest) = depthAfter? depth rest := by
  rw [depthAfter?, keyword?_eq_none_iff.2 free]

section Phrases

variable {α : Type} [Numeral α]

mutual
/-- An item closes exactly what it opens. -/
theorem Item.depthAfter?_eq : {tokens : List Token} → {qs : List (Query α)} → Item tokens qs →
    ∀ depth, depthAfter? depth tokens = some depth
  | _, _, .operator keyword arguments, depth => by
    rw [depthAfter?_keyword keyword, depthAfter?_append, Arguments.depthAfter?_eq arguments]
    rfl
  | _, _, .terms free _, depth => by
    rw [depthAfter?_free free]
    rfl

/-- Arguments close exactly what they open. -/
theorem Arguments.depthAfter?_eq : {op : Operator} → {tokens : List Token} →
    {args : List (Query α)} → {weights : List α} → Arguments op tokens args weights →
    ∀ depth, depthAfter? depth tokens = some depth
  | _, _, _, _, .done, depth => rfl
  | _, _, _, _, .item _ item others, depth => by
    rw [depthAfter?_append, Item.depthAfter?_eq item]
    exact Arguments.depthAfter?_eq others depth
  | _, _, _, _, .weighted _ read item others, depth => by
    rw [depthAfter?_free read.free, depthAfter?_append, Item.depthAfter?_eq item]
    exact Arguments.depthAfter?_eq others depth
  | _, _, _, _, .unused _ read, depth => by
    rw [depthAfter?_free read.free]
    rfl
end

variable [NatCast α]

/-- A balanced text that is read inside an operator is made of arguments of the operator. -/
theorem arguments_of_enclosed {source : String} {op : Operator} {outer : List (Frame α)}
    {inside behind : List Token} {q : Query α} (balanced : depthAfter? 0 inside = some 0)
    (parsed : parseTokens source (Frame.start op) outer (inside ++ .close :: behind) = .ok q) :
    ∃ (args : List (Query α)) (weights : List α), Arguments op inside args weights := by
  obtain ⟨read, rest, args, weights, split, arguments, -⟩ :=
    derived_of_parseTokens _ _ _ (by simp [Sound, Frame.start]) parsed
  have read_balanced : depthAfter? 0 read = some 0 := Arguments.depthAfter?_eq arguments 0
  -- neither of the two can go on with a parenthesis behind the other one
  have not_longer {first more : List Token} (first_balanced : depthAfter? 0 first = some 0)
      (whole_balanced : depthAfter? 0 (first ++ .close :: more) = some 0) : False := by
    rw [depthAfter?_append, first_balanced] at whole_balanced
    simp [depthAfter?] at whole_balanced
  rcases List.append_eq_append_iff.1 split with ⟨more, longer, tail⟩ | ⟨more, longer, tail⟩
  · cases more with
    | nil =>
      rw [List.append_nil] at longer
      rw [← longer]
      exact ⟨args, weights, arguments⟩
    | cons token more =>
      obtain ⟨rfl, -⟩ := List.cons.inj tail
      rw [longer] at read_balanced
      exact (not_longer balanced read_balanced).elim
  · cases more with
    | nil =>
      rw [List.append_nil] at longer
      rw [longer]
      exact ⟨args, weights, arguments⟩
    | cons token more =>
      obtain ⟨rfl, -⟩ := List.cons.inj tail
      rw [longer] at balanced
      exact (not_longer read_balanced balanced).elim

end Phrases

end Query

end RankedRetrieval

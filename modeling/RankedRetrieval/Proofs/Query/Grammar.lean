import RankedRetrieval.Model
import RankedRetrieval.Proofs.Query.Lexing

/-!
# The grammar of the query language

The parser reads exactly the texts whose tokens derive from a grammar, and yields the clean form
of the query that the derivation denotes.

## Main Definitions

* `Item`, `Arguments` — the grammar, with what its phrases denote
* `Behind` — arguments behind a weight that may already have been read
* `Derived` — tokens that close the open frame with what they derive

## Main Results

* `parseTokens_arguments` — derived arguments are read into the open frame
* `derived_of_parseTokens` — what is read up to a closing parenthesis is derived
* `parse_iff_derived` — the texts that are parsed, and what they denote
* `parse_eq_ok_iff` — the same under the default operator of a model

## Design Notes

The grammar knows neither a stack nor pending weights: a weight and the item that it belongs to
are derived together, and a weight that nothing follows is derived as unused.  Reading keeps the
frames around the open one untouched until it is closed, so both directions are about the open
frame alone.
-/

namespace RankedRetrieval.Query

variable {α : Type}

/-! ### The grammar -/

/-- A word that is the weight of the item behind it. -/
structure Weight [Numeral α] (word : String) (weight : α) : Prop where
  /-- It is no keyword, nor the beginning of one. -/
  free : ¬ Reserved word
  /-- It is a number. -/
  read : Numeral.read word = .ok weight

mutual
/-- The tokens of an item with the queries that it denotes: an operator with its arguments, or
the terms of a word. -/
inductive Item [Numeral α] : List Token → List (Query α) → Prop where
  /-- An operator reaches from its keyword to a closing parenthesis. -/
  | operator {word : String} {op : Operator} {tokens : List Token} {args : List (Query α)}
      {weights : List α} (keyword : Keyword word op)
      (arguments : Arguments op tokens args weights) :
      Item (.word word :: (tokens ++ [.close])) [apply op args weights]
  /-- A word has a term for each stem of its text, all of them in the field that it names. -/
  | terms {word text field : String} (free : ¬ Reserved word)
      (split : TermWord word text field) :
      Item [.word word] ((Text.queryTerms text).map fun stem => term stem field)

/-- The tokens between the keyword of an operator and its closing parenthesis, with the
arguments and weights that they denote. -/
inductive Arguments [Numeral α] : Operator → List Token → List (Query α) → List α → Prop where
  /-- There may be no arguments. -/
  | done {op : Operator} : Arguments op [] [] []
  /-- Items follow each other under an operator without weights. -/
  | item {op : Operator} {tokens rest : List Token} {qs args : List (Query α)}
      {weights : List α} (unweighted : op.isWeighted = false) (item : Item tokens qs)
      (others : Arguments op rest args weights) :
      Arguments op (tokens ++ rest) (qs.map (under op) ++ args) weights
  /-- Each item has a weight before it under an operator with weights. -/
  | weighted {op : Operator} {word : String} {weight : α} {tokens rest : List Token}
      {qs args : List (Query α)} {weights : List α} (weighted : op.isWeighted = true)
      (read : Weight word weight) (item : Item tokens qs)
      (others : Arguments op rest args weights) :
      Arguments op (.word word :: (tokens ++ rest)) (qs.map (under op) ++ args)
        (qs.map (fun _ => weight) ++ weights)
  /-- The last weight may be followed by nothing. -/
  | unused {op : Operator} {word : String} {weight : α} (weighted : op.isWeighted = true)
      (read : Weight word weight) : Arguments op [.word word] [] []
end

/-! ### Frames -/

section Frames

variable [NatCast α]

/-- A frame with the queries of an item as its next arguments. -/
def accept (f : Frame α) (qs : List (Query α)) : Frame α where
  op := f.op
  args := f.args ++ qs.map (under f.op)
  weights := f.weights ++
    if f.op.isWeighted then qs.map fun _ => f.pending.getD ((0 : Nat) : α) else []
  pending := none

theorem push_eq (f : Frame α) (q : Query α) (weight : Option α) :
    f.push q weight = accept { f with pending := weight } [q] := by
  unfold Frame.push accept
  cases f.op.isWeighted <;> simp

theorem accept_accept (f : Frame α) (qs rs : List (Query α)) :
    accept { accept f qs with pending := f.pending } rs = accept f (qs ++ rs) := by
  unfold accept
  cases f.op.isWeighted <;> simp

/-- The terms of a word are accepted together. -/
theorem pushTerms_eq (f : Frame α) (stems : List String) (field : String) :
    f.pushTerms stems field = accept f (stems.map fun stem => term stem field) := by
  have pushed (weight : Option α) (g : Frame α) :
      { stems.foldl (fun g stem => g.push (term stem field) weight) g with
          pending := (none : Option α) } =
        accept { g with pending := weight } (stems.map fun stem => term stem field) := by
    induction stems generalizing g with
    | nil =>
      unfold accept
      cases g.op.isWeighted <;> simp
    | cons stem stems ih =>
      rw [List.foldl_cons, List.map_cons, ← List.singleton_append, ih, push_eq]
      exact accept_accept { g with pending := weight } _ _
  exact pushed f.pending f

/-- An operator that is closed is accepted by a frame that does not wait for a weight. -/
theorem attach_eq_ok_iff [Numeral α] {f g : Frame α} {q : Query α} :
    f.attach q = .ok g ↔ f.expectsWeight = false ∧ accept f [q] = g := by
  unfold Frame.attach Frame.expectsWeight
  cases weighted : f.op.isWeighted with
  | false => simp [push_eq, accept, weighted]
  | true =>
    cases pending : f.pending with
    | none => simp
    | some weight => simp [push_eq, accept, weighted, pending]

end Frames

/-! ### Reading what is derived -/

section Reading

variable [NatCast α] [Numeral α] {source : String}

/-- Closing a frame leaves nothing of it but its query. -/
theorem parseTokens_close (top other : Frame α) (same : top.query = other.query)
    (outer : List (Frame α)) (rest : List Token) :
    parseTokens source top outer (.close :: rest) =
      parseTokens source other outer (.close :: rest) := by
  cases outer with
  | nil => rw [parseTokens, parseTokens, same]
  | cons parent others => rw [parseTokens, parseTokens, same]

theorem parseTokens_keyword {word : String} {op : Operator} (keyword : Keyword word op)
    (top : Frame α) (outer : List (Frame α)) (rest : List Token) :
    parseTokens source top outer (.word word :: rest) =
      parseTokens source (Frame.start op) (top :: outer) rest := by
  rw [parseTokens, keyword?_eq_some_iff.2 keyword]

theorem parseTokens_weight {word : String} {weight : α} (read : Weight word weight)
    {top : Frame α} (expects : top.expectsWeight = true) (outer : List (Frame α))
    (rest : List Token) :
    parseTokens source top outer (.word word :: rest) =
      parseTokens source { top with pending := some weight } outer rest := by
  rw [parseTokens, keyword?_eq_none_iff.2 read.free]
  simp only [readWord, expects, if_true, read.read]

mutual
/-- A derived item is accepted by the open frame. -/
theorem parseTokens_item : {tokens : List Token} → {qs : List (Query α)} → Item tokens qs →
    ∀ (top : Frame α) (outer : List (Frame α)) (rest : List Token),
      top.expectsWeight = false →
      parseTokens source top outer (tokens ++ rest) =
        parseTokens source (accept top qs) outer rest
  | _, _, @Item.operator _ _ _ op _ args weights keyword arguments, top, outer, rest, ready => by
    have attached : top.attach (apply op args weights) =
        .ok (accept top [apply op args weights]) := attach_eq_ok_iff.2 ⟨ready, rfl⟩
    -- the arguments are read into a frame of their own, which is then attached to the open one
    rw [List.cons_append, List.append_assoc, parseTokens_keyword keyword, List.singleton_append,
      Frame.start, parseTokens_arguments arguments [] [] (top :: outer) rest, parseTokens]
    simp only [Frame.query, List.nil_append, attached]
  | _, _, .terms free split, top, outer, rest, ready => by
    rw [List.singleton_append, parseTokens, keyword?_eq_none_iff.2 free]
    simp only [readWord, ready, Bool.false_eq_true, if_false, splitField_eq_ok_iff.2 split,
      Except.map, pushTerms_eq]

/-- Derived arguments are read into the open frame up to its closing parenthesis. -/
theorem parseTokens_arguments : {op : Operator} → {tokens : List Token} →
    {args : List (Query α)} → {weights : List α} → Arguments op tokens args weights →
    ∀ (before : List (Query α)) (beforeWeights : List α) (outer : List (Frame α))
      (rest : List Token),
      parseTokens source ⟨op, before, beforeWeights, none⟩ outer (tokens ++ .close :: rest) =
        parseTokens source ⟨op, before ++ args, beforeWeights ++ weights, none⟩ outer
          (.close :: rest)
  | _, _, _, _, .done, before, beforeWeights, outer, rest => by
    rw [List.nil_append, List.append_nil, List.append_nil]
  | op, _, _, _, .item unweighted item others, before, beforeWeights, outer, rest => by
    have ready : (⟨op, before, beforeWeights, none⟩ : Frame α).expectsWeight = false := by
      simp [Frame.expectsWeight, unweighted]
    rw [List.append_assoc, parseTokens_item item _ outer _ ready, accept,
      parseTokens_arguments others _ _ outer rest]
    simp [unweighted]
  | op, _, _, _, @Arguments.weighted _ _ _ _ weight _ _ _ _ _ weighted read item others, before,
      beforeWeights, outer, rest => by
    have expects : (⟨op, before, beforeWeights, none⟩ : Frame α).expectsWeight = true := by
      simp [Frame.expectsWeight, weighted]
    have ready : (⟨op, before, beforeWeights, some weight⟩ : Frame α).expectsWeight = false := by
      simp [Frame.expectsWeight]
    rw [List.cons_append, parseTokens_weight read expects, List.append_assoc,
      parseTokens_item item _ outer _ ready, accept, parseTokens_arguments others _ _ outer rest]
    simp [weighted]
  | op, _, _, _, .unused weighted read, before, beforeWeights, outer, rest => by
    have expects : (⟨op, before, beforeWeights, none⟩ : Frame α).expectsWeight = true := by
      simp [Frame.expectsWeight, weighted]
    rw [List.singleton_append, parseTokens_weight read expects]
    exact parseTokens_close _ _ (by simp [Frame.query]) outer rest
end

end Reading

/-! ### Deriving what is read -/

section Deriving

variable [NatCast α] [Numeral α] {source : String}

/-- The tokens of arguments behind a weight that may have been read already. -/
def Behind (op : Operator) (pending : Option α) (tokens : List Token) (args : List (Query α))
    (weights : List α) : Prop :=
  match pending with
  | none => Arguments op tokens args weights
  | some weight =>
    ∀ word, Weight word weight → Arguments op (.word word :: tokens) args weights

/-- A frame has read a weight only if its operator has weights. -/
def Sound (f : Frame α) : Prop :=
  f.pending.isSome = true → f.op.isWeighted = true

omit [NatCast α] in
theorem behind_nil {f : Frame α} (sound : Sound f) : Behind f.op f.pending [] [] [] := by
  unfold Sound at sound
  unfold Behind
  cases pending : f.pending with
  | none => exact .done
  | some weight => exact fun word read => .unused (sound (by rw [pending]; rfl)) read

/-- An item belongs to the weight that has been read before it. -/
theorem behind_item {f : Frame α} {tokens rest : List Token} {qs args : List (Query α)}
    {weights : List α} (sound : Sound f) (ready : f.expectsWeight = false) (item : Item tokens qs)
    (others : Arguments f.op rest args weights) :
    Behind f.op f.pending (tokens ++ rest) (qs.map (under f.op) ++ args)
      ((if f.op.isWeighted then qs.map fun _ => f.pending.getD ((0 : Nat) : α) else []) ++
        weights) := by
  unfold Sound at sound
  unfold Frame.expectsWeight at ready
  unfold Behind
  cases pending : f.pending with
  | none =>
    have unweighted : f.op.isWeighted = false := by simpa [pending] using ready
    rw [if_neg (by simp [unweighted])]
    exact .item unweighted item others
  | some weight =>
    have weighted : f.op.isWeighted = true := sound (by rw [pending]; rfl)
    rw [if_pos weighted]
    exact fun word read => .weighted weighted read item others

/-- The tokens that the open frame reads are derived up to a closing parenthesis, which closes
the frame with what they denote. -/
def Derived (source : String) (top : Frame α) (outer : List (Frame α)) (tokens : List Token)
    (q : Query α) : Prop :=
  ∃ read rest args weights, tokens = read ++ .close :: rest ∧
    Behind top.op top.pending read args weights ∧
    parseTokens source ⟨top.op, top.args ++ args, top.weights ++ weights, none⟩ outer
      (.close :: rest) = .ok q

variable {top : Frame α} {outer : List (Frame α)} {q : Query α}

theorem derived_close {rest : List Token} (sound : Sound top)
    (parsed : parseTokens source top outer (.close :: rest) = .ok q) :
    Derived source top outer (.close :: rest) q := by
  refine ⟨[], rest, [], [], rfl, behind_nil sound, ?_⟩
  rw [← parsed]
  exact parseTokens_close _ top (by simp [Frame.query]) outer rest

theorem derived_item {tokens rest : List Token} {qs : List (Query α)} (sound : Sound top)
    (ready : top.expectsWeight = false) (item : Item tokens qs)
    (later : Derived source (accept top qs) outer rest q) :
    Derived source top outer (tokens ++ rest) q := by
  obtain ⟨read, others, args, weights, rfl, arguments, closed⟩ := later
  refine ⟨tokens ++ read, others, _, _, (List.append_assoc _ _ _).symm,
    behind_item sound ready item arguments, ?_⟩
  rw [← List.append_assoc, ← List.append_assoc]
  exact closed

theorem derived_weight {word : String} {weight : α} {rest : List Token}
    (expects : top.expectsWeight = true) (read : Weight word weight)
    (later : Derived source { top with pending := some weight } outer rest q) :
    Derived source top outer (.word word :: rest) q := by
  obtain ⟨tokens, others, args, weights, rfl, arguments, closed⟩ := later
  refine ⟨.word word :: tokens, others, args, weights, rfl, ?_, closed⟩
  have fresh : top.pending = none := by
    unfold Frame.expectsWeight at expects
    simpa using (Bool.and_eq_true_iff.1 expects).2
  rw [fresh]
  exact arguments word read

/-- A word that has been read is a weight, or the word of an item. -/
theorem readWord_eq_ok {word : String} {frame : Frame α} (free : ¬ Reserved word)
    (read : readWord top word = .ok frame) :
    (top.expectsWeight = true ∧
        ∃ weight, Weight word weight ∧ frame = { top with pending := some weight }) ∨
      (top.expectsWeight = false ∧ ∃ qs, Item [.word word] qs ∧ frame = accept top qs) := by
  unfold readWord at read
  split at read
  · rename_i expects
    split at read
    · rename_i weight number
      exact .inl ⟨expects, weight, ⟨free, number⟩, (Except.ok.inj read).symm⟩
    · simp at read
  · rename_i ready
    refine .inr ⟨Bool.eq_false_iff.2 ready, ?_⟩
    obtain ⟨sides, split, same⟩ := Except.map_eq_ok_iff.1 read
    refine ⟨_, .terms free (splitField_eq_ok_iff.1 split), ?_⟩
    rw [← pushTerms_eq]
    exact same.symm

/-- What is read is derived. -/
theorem derived_of_parseTokens (tokens : List Token) (top : Frame α) (outer : List (Frame α))
    (sound : Sound top) (parsed : parseTokens source top outer tokens = .ok q) :
    Derived source top outer tokens q := by
  match tokens, parsed with
  | [], parsed => simp [parseTokens] at parsed
  | .close :: rest, parsed => exact derived_close sound parsed
  | .word word :: rest, parsed =>
    rw [parseTokens] at parsed
    split at parsed
    · simp at parsed
    · rename_i op found
      -- the inner frame is derived up to its closing parenthesis, and the open frame goes on there
      obtain ⟨inside, rest', args, weights, split, arguments, closed⟩ :=
        derived_of_parseTokens rest (Frame.start op) (top :: outer)
          (by simp [Sound, Frame.start]) parsed
      rw [parseTokens] at closed
      split at closed
      · rename_i frame attached
        obtain ⟨ready, rfl⟩ := attach_eq_ok_iff.1 attached
        have shorter : rest'.length < rest.length + 1 := by
          rw [split, List.length_append, List.length_cons]
          omega
        have later := derived_of_parseTokens rest' _ outer (by simp [Sound, accept]) closed
        have whole := derived_item sound ready
          (.operator (keyword?_eq_some_iff.1 found) arguments) later
        simpa [split] using whole
      · simp at closed
    · rename_i found
      split at parsed
      · rename_i frame read
        rcases readWord_eq_ok (keyword?_eq_none_iff.1 found) read with
          ⟨expects, weight, number, rfl⟩ | ⟨ready, qs, item, rfl⟩
        · refine derived_weight expects number (derived_of_parseTokens rest _ outer ?_ parsed)
          exact fun _ => (Bool.and_eq_true_iff.1 expects).1
        · exact derived_item sound ready item
            (derived_of_parseTokens rest _ outer (by simp [Sound, accept]) parsed)
      · simp at parsed
termination_by tokens.length

end Deriving

/-! ### Parsing -/

theorem defaultOperator_structure (model : RetrievalModel α) :
    model.defaultOperator ≠ .score ∧ model.defaultOperator.isPositional = false ∧
      model.defaultOperator.isWeighted = false := by
  cases model <;> exact ⟨by simp [RetrievalModel.defaultOperator], rfl, rfl⟩

/-- Under any default operator, what is parsed are the arguments that the tokens of the text
derive. -/
theorem parse_iff_derived [NatCast α] [Numeral α] {default : Operator} {source : String}
    {q : Query α} :
    parse default source = .ok q ↔
      ∃ (tokens : List Token) (args : List (Query α)) (weights : List α),
        Tokenized source.toList tokens ∧ Arguments default tokens args weights ∧
          q = (apply default args weights).cleanup := by
  unfold parse
  constructor
  · intro parsed
    obtain ⟨raw, read, rfl⟩ := Except.map_eq_ok_iff.1 parsed
    obtain ⟨tokens, rest, args, weights, split, arguments, closed⟩ :=
      derived_of_parseTokens _ _ _ (by simp [Sound, Frame.start]) read
    rw [parseTokens] at closed
    split at closed
    · -- only the parenthesis behind the text closes the outermost frame
      rename_i ended
      rw [List.isEmpty_iff.1 ended] at split
      refine ⟨tokens, args, weights, ?_, arguments, ?_⟩
      · rw [tokenized_iff]
        exact (List.append_inj' split rfl).1
      · rw [← Except.ok.inj closed]
        rfl
    · simp at closed
  · rintro ⟨tokens, args, weights, tokenized, arguments, rfl⟩
    rw [tokenized_iff.1 tokenized, Frame.start, parseTokens_arguments arguments]
    rfl

/-- A word that is the only stem of itself is an item. -/
theorem item_stem [Numeral α] {stem : String} (free : Token.keyword? stem = .ok none)
    (undotted : '.' ∉ stem.toList) (alone : Text.queryTerms stem = [stem]) :
    Item [.word stem] [(term stem defaultField : Query α)] := by
  have item : Item [.word stem]
      ((Text.queryTerms stem).map fun stem => (term stem defaultField : Query α)) :=
    .terms (keyword?_eq_none_iff.1 free) (.plain undotted)
  rwa [alone] at item

/-- Under any model a text is parsed exactly when its tokens derive from the grammar as arguments
of the default operator, and is then the clean form of that operator with these arguments. -/
theorem parse_eq_ok_iff [NatCast α] [Numeral α] {model : RetrievalModel α} {source : String}
    {q : Query α} :
    parse model.defaultOperator source = .ok q ↔
      ∃ (tokens : List Token) (args : List (Query α)) (weights : List α),
        Tokenized source.toList tokens ∧
        Arguments model.defaultOperator tokens args weights ∧
        q = (apply model.defaultOperator args weights).cleanup :=
  parse_iff_derived

end RankedRetrieval.Query

import Mathlib.Algebra.Group.Nat.Defs
import Mathlib.Data.List.Nodup
import RankedRetrieval.Proofs.Text.Lines
import RankedRetrieval.Snapshot.Codec

/-!
# Laws of codecs

What a codec has written it reads back, whatever follows, and it does not read what has been cut
short.

## Main Definitions

* `Codec.Faithful` — a codec that reads its own bytes back
* `Codec.ListFits`, `Codec.TableFits`, `Codec.TextFits` — compound values that the lengths in
  front of them can describe

## Main Results

* `Codec.Faithful.decode?_truncated` — no codec reads bytes of its own that have been cut short
* `Codec.faithful_natural`, `Codec.faithful_text`, `Codec.faithful_list`, `Codec.faithful_table` —
  the codecs of the library are faithful

## Design Notes

**Cutting short is not treated codec by codec.**  Reading takes a value from the front, so more
bytes behind the ones that have been read change nothing but the rest
(`Faithful.decode?_append`).  A value that was read from a part of some bytes would therefore also
be read from all of them, with bytes left over; but reading all of them leaves nothing.

**Numbers have a width.**  A codec is faithful for the values that its widths can hold, which is
why a predicate on values goes with every law.
-/

namespace RankedRetrieval

/-! ### Tables that are written back -/

namespace Table

variable {κ β : Type} [DecidableEq κ]

theorem write_of_not_mem {key : κ} {entries : List (κ × β)} (fresh : key ∉ entries.map Prod.fst)
    (make : Option β → β) : write key make entries = entries ++ [(key, make none)] := by
  induction entries with
  | nil => rfl
  | cons entry entries ih =>
    obtain ⟨k, b⟩ := entry
    rw [List.map_cons, List.mem_cons, not_or] at fresh
    rw [write, if_neg (Ne.symm fresh.1), ih fresh.2]
    rfl

theorem foldl_insert_of_nodup (before entries : List (κ × β))
    (distinct : ((before ++ entries).map Prod.fst).Nodup) :
    entries.foldl (fun (t : Table κ β) entry => t.insert entry.1 entry.2) ⟨before⟩ =
      ⟨before ++ entries⟩ := by
  induction entries generalizing before with
  | nil => rw [List.foldl_nil, List.append_nil]
  | cons entry entries ih =>
    have fresh : entry.1 ∉ before.map Prod.fst := by
      intro member
      rw [List.map_append] at distinct
      exact (List.disjoint_of_nodup_append distinct) member (by simp)
    have regrouped : before ++ entry :: entries = before ++ [entry] ++ entries := by simp
    rw [regrouped] at distinct ⊢
    rw [List.foldl_cons, insert, adjust, write_of_not_mem fresh]
    exact ih (before ++ [entry]) distinct

/-- Writing entries with distinct keys one after the other puts them down as they are. -/
theorem ofList_of_nodup {entries : List (κ × β)} (distinct : (entries.map Prod.fst).Nodup) :
    ofList entries = ⟨entries⟩ :=
  foldl_insert_of_nodup [] entries distinct

end Table

namespace Codec

variable {β γ : Type}

/-! ### Faithful codecs -/

/-- A codec that reads its own bytes back, for the values that fit. -/
structure Faithful (codec : Codec β) (fits : β → Prop) : Prop where
  /-- Behind a value that has been written anything may follow. -/
  decode?_encode : ∀ b, fits b → ∀ rest, codec.decode? (codec.encode b ++ rest) = some (b, rest)
  /-- More bytes at the end change nothing but the rest. -/
  decode?_append : ∀ bytes b rest, codec.decode? bytes = some (b, rest) →
    ∀ more, codec.decode? (bytes ++ more) = some (b, rest ++ more)

namespace Faithful

variable {codec : Codec β} {fits : β → Prop}

/-- Bytes that have been cut short are not read. -/
theorem decode?_truncated (faithful : Faithful codec fits) {b : β} (fit : fits b)
    {bytes : List UInt8} (cut : bytes <+: codec.encode b) (short : bytes ≠ codec.encode b) :
    codec.decode? bytes = none := by
  obtain ⟨missing, whole⟩ := cut
  cases read : codec.decode? bytes with
  | none => rfl
  | some found =>
    -- what is read from the part is read from the whole, with the missing bytes left over
    obtain ⟨other, rest⟩ := found
    have from_part := faithful.decode?_append bytes other rest read missing
    have from_whole := faithful.decode?_encode b fit []
    rw [List.append_nil, ← whole, from_part] at from_whole
    have left_over : rest ++ missing = [] := (Prod.mk.inj (Option.some.inj from_whole)).2
    have nothing_missing : missing = [] := (List.append_eq_nil_iff.1 left_over).2
    rw [nothing_missing, List.append_nil] at whole
    exact absurd whole short

theorem mono (faithful : Faithful codec fits) {stronger : β → Prop}
    (implies : ∀ b, stronger b → fits b) : Faithful codec stronger where
  decode?_encode b fit := faithful.decode?_encode b (implies b fit)
  decode?_append := faithful.decode?_append

end Faithful

/-! ### Numbers -/

theorem readLittleEndian?_append {width : Nat} {bytes : List UInt8} {n : Nat} {rest : List UInt8}
    (read : readLittleEndian? width bytes = some (n, rest)) (more : List UInt8) :
    readLittleEndian? width (bytes ++ more) = some (n, rest ++ more) := by
  induction width generalizing bytes n with
  | zero =>
    obtain ⟨rfl, rfl⟩ := Prod.mk.inj (Option.some.inj read)
    rfl
  | succ width ih =>
    cases bytes with
    | nil => simp [readLittleEndian?] at read
    | cons b bytes =>
      rw [readLittleEndian?] at read
      obtain ⟨⟨high, after⟩, found, same⟩ := Option.map_eq_some_iff.1 read
      obtain ⟨rfl, rfl⟩ := Prod.mk.inj same
      rw [List.cons_append, readLittleEndian?, ih found]
      rfl

theorem readLittleEndian?_littleEndian {width n : Nat} (fit : n < 256 ^ width)
    (rest : List UInt8) :
    readLittleEndian? width (littleEndian width n ++ rest) = some (n, rest) := by
  induction width generalizing n with
  | zero =>
    obtain rfl : n = 0 := by simpa using fit
    rfl
  | succ width ih =>
    have high : n / 256 < 256 ^ width := by
      rw [Nat.div_lt_iff_lt_mul (by decide), ← Nat.pow_succ]
      exact fit
    have low : (UInt8.ofNat (n % 256)).toNat = n % 256 := by
      rw [UInt8.toNat_ofNat']
      exact Nat.mod_mod n 256
    rw [littleEndian, List.cons_append, readLittleEndian?, ih high]
    simp only [Option.map_some, low, Nat.mod_add_div]

/-- Numbers within the width are read back. -/
theorem faithful_natural (width : Nat) : Faithful (natural width) fun n => n < 256 ^ width where
  decode?_encode _ fit rest := readLittleEndian?_littleEndian fit rest
  decode?_append _ _ _ read more := readLittleEndian?_append read more

/-- Identifiers and positions are less than this. -/
def wordBound : Nat := 256 ^ 4

/-- Lengths and sums are less than this. -/
def sizeBound : Nat := 256 ^ 8

theorem faithful_word : Faithful word (· < wordBound) := faithful_natural 4

theorem faithful_size : Faithful size (· < sizeBound) := faithful_natural 8

/-! ### Texts -/

theorem takeBytes?_append {n : Nat} {bytes taken rest : List UInt8}
    (read : takeBytes? n bytes = some (taken, rest)) (more : List UInt8) :
    takeBytes? n (bytes ++ more) = some (taken, rest ++ more) := by
  induction n generalizing bytes taken with
  | zero =>
    obtain ⟨rfl, rfl⟩ := Prod.mk.inj (Option.some.inj read)
    rfl
  | succ n ih =>
    cases bytes with
    | nil => simp [takeBytes?] at read
    | cons b bytes =>
      rw [takeBytes?] at read
      obtain ⟨⟨others, after⟩, found, same⟩ := Option.map_eq_some_iff.1 read
      obtain ⟨rfl, rfl⟩ := Prod.mk.inj same
      rw [List.cons_append, takeBytes?, ih found]
      rfl

theorem takeBytes?_length (taken rest : List UInt8) :
    takeBytes? taken.length (taken ++ rest) = some (taken, rest) := by
  induction taken with
  | nil => rfl
  | cons b taken ih =>
    rw [List.length_cons, List.cons_append, takeBytes?, ih]
    rfl

/-- A text whose length fits into the number in front of it. -/
def TextFits (s : String) : Prop := (Text.encode s).length < sizeBound

theorem text_decode? (bytes : List UInt8) :
    text.decode? bytes =
      (size.decode? bytes).bind fun (length, rest) => readText? length rest := rfl

instance : DecidablePred TextFits := fun s =>
  inferInstanceAs (Decidable ((Text.encode s).length < sizeBound))

/-- Texts are read back. -/
theorem faithful_text : Faithful text TextFits where
  decode?_encode s fit rest := by
    have written : text.encode s = size.encode (Text.encode s).length ++ Text.encode s := rfl
    rw [written, List.append_assoc, text_decode?, faithful_size.decode?_encode _ fit,
      Option.bind_some]
    dsimp only
    rw [readText?, takeBytes?_length]
    dsimp only
    rw [Text.decode?_encode, Option.map_some]
  decode?_append bytes s rest read more := by
    obtain ⟨⟨length, after⟩, counted, taken⟩ := Option.bind_eq_some_iff.1 read
    rw [text_decode?, faithful_size.decode?_append bytes length after counted more,
      Option.bind_some]
    dsimp only at taken ⊢
    unfold readText? at taken ⊢
    cases found : takeBytes? length after with
    | none => simp [found] at taken
    | some cut =>
      obtain ⟨part, left⟩ := cut
      rw [found] at taken
      obtain ⟨decoded, utf8, same⟩ := Option.map_eq_some_iff.1 taken
      obtain ⟨rfl, rfl⟩ := Prod.mk.inj same
      rw [takeBytes?_append found more]
      dsimp only
      rw [utf8, Option.map_some]

/-! ### Compound values -/

section Compound

variable {first : Codec β} {second : Codec γ} {fitsFirst : β → Prop} {fitsSecond : γ → Prop}

/-- Two values are read back one after the other. -/
theorem faithful_pair (left : Faithful first fitsFirst) (right : Faithful second fitsSecond) :
    Faithful (pair first second) fun p => fitsFirst p.1 ∧ fitsSecond p.2 where
  decode?_encode p fit rest := by
    obtain ⟨b, c⟩ := p
    show (first.decode? ((first.encode b ++ second.encode c) ++ rest)).bind _ = _
    rw [List.append_assoc, left.decode?_encode b fit.1, Option.bind_some]
    dsimp only
    rw [right.decode?_encode c fit.2, Option.map_some]
  decode?_append bytes p rest read more := by
    obtain ⟨⟨b, middle⟩, head, tail⟩ := Option.bind_eq_some_iff.1 read
    obtain ⟨⟨c, after⟩, found, same⟩ := Option.map_eq_some_iff.1 tail
    obtain ⟨rfl, rfl⟩ := Prod.mk.inj same
    show (first.decode? (bytes ++ more)).bind _ = _
    rw [left.decode?_append bytes b middle head more, Option.bind_some]
    dsimp only
    rw [right.decode?_append middle c after found more, Option.map_some]

/-- Values that are their parts again are read back with their parts. -/
theorem faithful_via {make : γ → β} {parts : β → γ} (inner : Faithful second fitsSecond)
    (made : ∀ b, fitsFirst b → make (parts b) = b ∧ fitsSecond (parts b)) :
    Faithful (via make parts second) fitsFirst where
  decode?_encode b fit rest := by
    obtain ⟨whole, parts_fit⟩ := made b fit
    show (second.decode? (second.encode (parts b) ++ rest)).map _ = _
    rw [inner.decode?_encode _ parts_fit, Option.map_some]
    dsimp only
    rw [whole]
  decode?_append bytes b rest read more := by
    obtain ⟨⟨c, after⟩, found, same⟩ := Option.map_eq_some_iff.1 read
    obtain ⟨rfl, rfl⟩ := Prod.mk.inj same
    show (second.decode? (bytes ++ more)).map _ = _
    rw [inner.decode?_append bytes c after found more, Option.map_some]

/-- Optional values are read back. -/
theorem faithful_option (inner : Faithful first fitsFirst) :
    Faithful (option first) fun b? => ∀ b ∈ b?, fitsFirst b where
  decode?_encode b? fit rest := by
    cases b? with
    | none => rfl
    | some b =>
      have read := inner.decode?_encode b (fit b rfl) rest
      show decodeOption? first (1 :: first.encode b ++ rest) = _
      rw [List.cons_append, decodeOption?, if_neg (by decide), if_pos rfl, read, Option.map_some]
  decode?_append bytes b? rest read more := by
    cases bytes with
    | nil => simp [option, decodeOption?] at read
    | cons tag bytes =>
      change decodeOption? first (tag :: bytes) = _ at read
      show decodeOption? first (tag :: (bytes ++ more)) = _
      rw [decodeOption?] at read ⊢
      split at read
      · rename_i absent
        obtain ⟨rfl, rfl⟩ := Prod.mk.inj (Option.some.inj read)
        rw [if_pos absent]
      · rename_i not_absent
        rw [if_neg not_absent]
        split at read
        · rename_i present
          obtain ⟨⟨b, after⟩, found, same⟩ := Option.map_eq_some_iff.1 read
          obtain ⟨rfl, rfl⟩ := Prod.mk.inj same
          rw [if_pos present, inner.decode?_append bytes b after found more, Option.map_some]
        · simp at read

theorem readMany?_encode (inner : Faithful first fitsFirst) {bs : List β}
    (fit : ∀ b ∈ bs, fitsFirst b) (rest : List UInt8) :
    readMany? first bs.length (bs.flatMap first.encode ++ rest) = some (bs, rest) := by
  induction bs with
  | nil => rfl
  | cons b bs ih =>
    obtain ⟨head, tail⟩ := List.forall_mem_cons.1 fit
    rw [List.length_cons, List.flatMap_cons, List.append_assoc, readMany?,
      inner.decode?_encode b head]
    dsimp only
    rw [ih tail, Option.map_some]

theorem readMany?_append (inner : Faithful first fitsFirst) {n : Nat} {bytes : List UInt8}
    {bs : List β} {rest : List UInt8} (read : readMany? first n bytes = some (bs, rest))
    (more : List UInt8) : readMany? first n (bytes ++ more) = some (bs, rest ++ more) := by
  induction n generalizing bytes bs with
  | zero =>
    obtain ⟨rfl, rfl⟩ := Prod.mk.inj (Option.some.inj read)
    rfl
  | succ n ih =>
    rw [readMany?] at read ⊢
    cases head : first.decode? bytes with
    | none => simp [head] at read
    | some found =>
      obtain ⟨b, middle⟩ := found
      rw [head] at read
      obtain ⟨⟨others, after⟩, tail, same⟩ := Option.map_eq_some_iff.1 read
      obtain ⟨rfl, rfl⟩ := Prod.mk.inj same
      rw [inner.decode?_append bytes b middle head more]
      dsimp only
      rw [ih tail, Option.map_some]

/-- A list whose length fits into the number in front of it, and each of whose elements fits. -/
def ListFits (fits : β → Prop) (bs : List β) : Prop :=
  bs.length < sizeBound ∧ ∀ b ∈ bs, fits b

instance {fits : β → Prop} [DecidablePred fits] : DecidablePred (ListFits fits) := fun bs =>
  inferInstanceAs (Decidable (bs.length < sizeBound ∧ ∀ b ∈ bs, fits b))

theorem list_decode? (bytes : List UInt8) :
    (list first).decode? bytes =
      (size.decode? bytes).bind fun (length, rest) => readMany? first length rest := rfl

/-- Lists are read back. -/
theorem faithful_list (inner : Faithful first fitsFirst) :
    Faithful (list first) (ListFits fitsFirst) where
  decode?_encode bs fit rest := by
    have written : (list first).encode bs = size.encode bs.length ++ bs.flatMap first.encode := rfl
    rw [written, List.append_assoc, list_decode?, faithful_size.decode?_encode _ fit.1,
      Option.bind_some]
    dsimp only
    rw [readMany?_encode inner fit.2]
  decode?_append bytes bs rest read more := by
    obtain ⟨⟨length, after⟩, counted, elements⟩ := Option.bind_eq_some_iff.1 read
    rw [list_decode?, faithful_size.decode?_append bytes length after counted more,
      Option.bind_some]
    dsimp only at elements ⊢
    rw [readMany?_append inner elements]

/-- A table with distinct keys whose entries fit. -/
def TableFits [DecidableEq β] (fitsKey : β → Prop) (fitsValue : γ → Prop) (t : Table β γ) : Prop :=
  t.keys.Nodup ∧ ListFits (fun entry => fitsKey entry.1 ∧ fitsValue entry.2) t.entries

instance [DecidableEq β] {fitsKey : β → Prop} {fitsValue : γ → Prop} [DecidablePred fitsKey]
    [DecidablePred fitsValue] : DecidablePred (TableFits fitsKey fitsValue) := fun t =>
  inferInstanceAs (Decidable (t.keys.Nodup ∧
    ListFits (fun entry => fitsKey entry.1 ∧ fitsValue entry.2) t.entries))

/-- Tables are read back with their entries in order. -/
theorem faithful_table [DecidableEq β] (key : Faithful first fitsFirst)
    (value : Faithful second fitsSecond) :
    Faithful (table first second) (TableFits fitsFirst fitsSecond) :=
  faithful_via (faithful_list (faithful_pair key value)) fun _ fit =>
    ⟨Table.ofList_of_nodup fit.1, fit.2⟩

end Compound

end Codec

end RankedRetrieval

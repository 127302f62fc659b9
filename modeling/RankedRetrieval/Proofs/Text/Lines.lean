import Mathlib.Data.List.Basic
import RankedRetrieval.Files.Content
import RankedRetrieval.Text.Blank

/-!
# Lines and columns

Texts that have been put together from lines and columns are taken apart again.

## Main Definitions

* `Text.Column` — texts that can stand in a column

## Main Results

* `Text.lines_join` — lines that are joined are split again
* `Text.byteLines_encode` — the lines of the bytes of a text are the bytes of its lines
* `Text.columns_intercalate` — texts with blanks between them are the columns
* `Content.readBytes_encode` — reading the bytes of a text is reading the text
* `Content.readText_join` — what is read from lines that are joined

## Design Notes

A line feed and a carriage return are one byte each, and no other character has these bytes among
its own.  So it makes no difference whether a text is split into lines before it is encoded or
afterwards.
-/

namespace RankedRetrieval

namespace Text

/-! ### Lines -/

section LinesAfter

variable {α : Type} [DecidableEq α] {feed carriage : α} {body : List α}

/-- What holds no line feed belongs to the line that has begun. -/
theorem linesAfter_of_whole (whole : feed ∉ body) (line more : List α) :
    linesAfter feed carriage line (body ++ more) =
      linesAfter feed carriage (body.reverse ++ line) more := by
  induction body generalizing line with
  | nil => rfl
  | cons c body ih =>
    obtain ⟨different, others⟩ := List.ne_and_not_mem_of_not_mem_cons whole
    rw [List.cons_append, linesAfter, if_neg (Ne.symm different), ih others,
      List.reverse_cons, List.append_assoc, List.singleton_append]

theorem linesAfter_append (whole : feed ∉ body) (line more : List α) :
    linesAfter feed carriage line (body ++ feed :: more) =
      closeLine carriage (body.reverse ++ line) :: linesAfter feed carriage [] more := by
  rw [linesAfter_of_whole whole, linesAfter, if_pos rfl]

theorem closeLine_reverse (closed : body.getLast? ≠ some carriage) :
    closeLine carriage body.reverse = body := by
  rw [List.getLast?_eq_head?_reverse] at closed
  cases split : body.reverse with
  | nil => simpa [closeLine] using split.symm
  | cons c earlier =>
    have different : c ≠ carriage := fun same => closed (by rw [split, same]; rfl)
    rw [closeLine, if_neg different, ← split, List.reverse_reverse]

end LinesAfter

/-- Lines that are joined are split again, if no line breaks in itself or ends in a carriage
return. -/
theorem lines_join {bodies : List String} (whole : ∀ b ∈ bodies, '\n' ∉ b.toList)
    (closed : ∀ b ∈ bodies, b.toList.getLast? ≠ some '\r') :
    lines (String.join (bodies.map fun b => b ++ "\n")) = bodies := by
  have split : linesAfter '\n' '\r' [] (String.join (bodies.map fun b => b ++ "\n")).toList =
      bodies.map String.toList := by
    induction bodies with
    | nil => rfl
    | cons b bodies ih =>
      obtain ⟨whole, whole_others⟩ := List.forall_mem_cons.1 whole
      obtain ⟨closed, closed_others⟩ := List.forall_mem_cons.1 closed
      have parts : (String.join ((b :: bodies).map fun b => b ++ "\n")).toList =
          b.toList ++ '\n' :: (String.join (bodies.map fun b => b ++ "\n")).toList := by
        simp
      rw [parts, linesAfter_append whole, List.append_nil, closeLine_reverse closed,
        ih whole_others closed_others, List.map_cons]
  rw [lines, split, List.map_map]
  simp

/-! ### Lines of bytes -/

/-- The bytes of characters. -/
def bytesOf (cs : List Char) : List UInt8 :=
  cs.flatMap String.utf8EncodeChar

theorem encode_ofList (cs : List Char) : encode (String.ofList cs) = bytesOf cs := by
  rw [encode, String.toUTF8_eq_toByteArray, String.toByteArray_ofList]
  exact List.toList_data_toByteArray

theorem encode_eq_bytesOf (text : String) : encode text = bytesOf text.toList := by
  rw [← encode_ofList, String.ofList_toList]

theorem bytesOf_append (cs ds : List Char) : bytesOf (cs ++ ds) = bytesOf cs ++ bytesOf ds :=
  List.flatMap_append

theorem encode_append (first second : String) :
    encode (first ++ second) = encode first ++ encode second := by
  simp only [encode_eq_bytesOf, String.toList_append, bytesOf_append]

/-- Among the bytes of a character is none of an ASCII character, unless it is that character. -/
theorem toNat_eq_of_mem_utf8EncodeChar {c : Char} {b : UInt8} (ascii : b.toNat < 128)
    (member : b ∈ String.utf8EncodeChar c) : c.toNat = b.toNat := by
  have high {n : Nat} (least : 128 ≤ n) (small : n < 256) : b ≠ UInt8.ofNat n := by
    rintro rfl
    rw [UInt8.toNat_ofNat_of_lt' small] at ascii
    omega
  unfold String.utf8EncodeChar at member
  dsimp only at member
  split at member
  · rename_i one_byte
    have small : c.val.toNat < 256 := Nat.lt_of_le_of_lt one_byte (by decide)
    rw [List.mem_singleton.1 member, UInt8.toNat_ofNat_of_lt' small]
    rfl
  · -- all bytes of a longer character are above those of the ASCII characters
    exfalso
    split at member
    · simp only [List.mem_cons, List.not_mem_nil, or_false] at member
      rcases member with same | same <;> exact high (by omega) (by omega) same
    · split at member
      · simp only [List.mem_cons, List.not_mem_nil, or_false] at member
        rcases member with same | same | same <;> exact high (by omega) (by omega) same
      · simp only [List.mem_cons, List.not_mem_nil, or_false] at member
        rcases member with same | same | same | same <;> exact high (by omega) (by omega) same

theorem not_mem_utf8EncodeChar {c d : Char} (ascii : d.toNat < 128) (different : c ≠ d) :
    UInt8.ofNat d.toNat ∉ String.utf8EncodeChar c := by
  have byte : (UInt8.ofNat d.toNat).toNat = d.toNat :=
    UInt8.toNat_ofNat_of_lt' (Nat.lt_trans ascii (by decide))
  intro member
  have same := toNat_eq_of_mem_utf8EncodeChar (by rwa [byte]) member
  exact different (Char.toNat_inj.1 (same.trans byte))

theorem bytesOf_reverse_cons (c : Char) (line : List Char) :
    bytesOf (c :: line).reverse = bytesOf line.reverse ++ String.utf8EncodeChar c := by
  rw [List.reverse_cons, bytesOf_append]
  exact congrArg (bytesOf line.reverse ++ ·) (List.flatMap_singleton _ _)

/-- Lines are closed alike before and after they are encoded. -/
theorem closeLine_bytesOf (line : List Char) :
    closeLine 13 (bytesOf line.reverse).reverse = bytesOf (closeLine '\r' line) := by
  cases line with
  | nil => rfl
  | cons c earlier =>
    have split := bytesOf_reverse_cons c earlier
    by_cases carriage : c = '\r'
    · subst carriage
      have one_byte : String.utf8EncodeChar '\r' = [13] := by decide
      rw [closeLine, if_pos rfl, split, one_byte, List.reverse_append, List.reverse_singleton,
        List.singleton_append, closeLine, if_pos rfl, List.reverse_reverse]
    · rw [closeLine, if_neg carriage]
      refine closeLine_reverse fun last => not_mem_utf8EncodeChar (by decide) carriage ?_
      rw [split, List.getLast?_append_of_ne_nil _ (by simp)] at last
      exact List.mem_of_getLast? last

/-- The bytes of the characters that follow a line are split as the characters are. -/
theorem linesAfter_bytesOf (line cs : List Char) :
    linesAfter 10 13 (bytesOf line.reverse).reverse (bytesOf cs) =
      (linesAfter '\n' '\r' line cs).map bytesOf := by
  induction cs generalizing line with
  | nil =>
    cases line with
    | nil => rfl
    | cons c line =>
      have begun : ((bytesOf (c :: line).reverse).reverse).isEmpty = false := by
        rw [bytesOf_reverse_cons]
        simp
      rw [show bytesOf [] = [] from rfl, linesAfter, begun, if_neg Bool.false_ne_true,
        List.reverse_reverse, linesAfter, if_neg (by simp), List.map_singleton]
  | cons c cs ih =>
    have split : bytesOf (c :: cs) = String.utf8EncodeChar c ++ bytesOf cs := List.flatMap_cons
    by_cases feed : c = '\n'
    · subst feed
      have one_byte : String.utf8EncodeChar '\n' = [10] := by decide
      rw [split, one_byte, List.singleton_append, linesAfter, if_pos rfl, linesAfter, if_pos rfl,
        List.map_cons, closeLine_bytesOf, ← ih []]
      rfl
    · have whole : 10 ∉ String.utf8EncodeChar c := not_mem_utf8EncodeChar (by decide) feed
      rw [split, linesAfter_of_whole whole, linesAfter, if_neg feed, ← ih (c :: line),
        bytesOf_reverse_cons, List.reverse_append]

/-- The lines of the bytes of a text are the bytes of its lines. -/
theorem byteLines_encode (text : String) : byteLines (encode text) = (lines text).map encode := by
  have split := linesAfter_bytesOf [] text.toList
  rw [byteLines, encode_eq_bytesOf, lines, List.map_map]
  refine split.trans (List.map_congr_left fun line _ => ?_)
  exact (encode_ofList line).symm

theorem decode?_encode (text : String) : decode? (encode text) = some text :=
  dif_pos text.isValidUTF8

/-! ### Columns -/

/-- A text that can stand in a column: it is neither empty nor does it hold a blank. -/
structure Column (text : String) : Prop where
  /-- It is not empty. -/
  nonempty : text.toList ≠ []
  /-- It holds no blank. -/
  solid : ∀ c ∈ text.toList, isBlank c = false

instance columnDecidable (text : String) : Decidable (Column text) :=
  decidable_of_iff (text.toList ≠ [] ∧ text.toList.any isBlank = false)
    ⟨fun ⟨nonempty, solid⟩ =>
        ⟨nonempty, by simpa only [List.any_eq_false, Bool.not_eq_true] using solid⟩,
      fun column => ⟨column.nonempty,
        by simpa only [List.any_eq_false, Bool.not_eq_true] using column.solid⟩⟩

section Parts

variable {isSeparator : Char → Bool} {word : List Char}

theorem partsAfter_append (solid : ∀ c ∈ word, isSeparator c = false) (part rest : List Char) :
    partsAfter isSeparator part (word ++ rest) =
      partsAfter isSeparator (word.reverse ++ part) rest := by
  induction word generalizing part with
  | nil => rfl
  | cons c word ih =>
    obtain ⟨kept, others⟩ := List.forall_mem_cons.1 solid
    rw [List.cons_append, partsAfter, kept, if_neg Bool.false_ne_true, ih others,
      List.reverse_cons, List.append_assoc, List.singleton_append]

theorem partsAfter_last (nonempty : word ≠ []) (solid : ∀ c ∈ word, isSeparator c = false) :
    partsAfter isSeparator [] word = [word] := by
  have whole := partsAfter_append solid [] []
  rw [List.append_nil] at whole
  rw [whole, partsAfter, List.append_nil, if_neg (by simpa using nonempty), List.reverse_reverse]

theorem partsAfter_cons {separator : Char} (separates : isSeparator separator = true)
    (nonempty : word ≠ []) (solid : ∀ c ∈ word, isSeparator c = false) (rest : List Char) :
    partsAfter isSeparator [] (word ++ separator :: rest) =
      word :: partsAfter isSeparator [] rest := by
  rw [partsAfter_append solid, partsAfter, separates, if_pos rfl, List.append_nil,
    if_neg (by simpa using nonempty), List.reverse_reverse]

end Parts

section Columns

variable {words : List String}

theorem toList_intercalate_cons (w v : String) (words : List String) :
    (" ".intercalate (w :: v :: words)).toList =
      w.toList ++ ' ' :: (" ".intercalate (v :: words)).toList := by
  simp

/-- Texts with blanks between them are the columns of the whole. -/
theorem columns_intercalate (each : ∀ w ∈ words, Column w) :
    columns (" ".intercalate words) = words := by
  have split : partsAfter isBlank [] (" ".intercalate words).toList = words.map String.toList := by
    induction words with
    | nil => rfl
    | cons w words ih =>
      obtain ⟨head, tail⟩ := List.forall_mem_cons.1 each
      cases words with
      | nil => simpa using partsAfter_last head.nonempty head.solid
      | cons v words =>
        rw [toList_intercalate_cons, partsAfter_cons (by decide) head.nonempty head.solid, ih tail]
        rfl
  rw [columns, split, List.map_map]
  simp

/-- There are no other blanks than those between the columns. -/
theorem isBlank_of_mem_intercalate (each : ∀ w ∈ words, Column w) {c : Char}
    (member : c ∈ (" ".intercalate words).toList) : c = ' ' ∨ isBlank c = false := by
  induction words with
  | nil => simp at member
  | cons w words ih =>
    obtain ⟨head, tail⟩ := List.forall_mem_cons.1 each
    cases words with
    | nil => exact .inr (head.solid c (by simpa using member))
    | cons v words =>
      rw [toList_intercalate_cons, List.mem_append, List.mem_cons] at member
      rcases member with first | blank | later
      · exact .inr (head.solid c first)
      · exact .inl blank
      · exact ih tail later

end Columns

end Text

/-! ### Contents -/

namespace Content

variable {β ι : Type} {read : String → Except LineFault (Option β)}

/-- Reading the bytes of a text is reading the text. -/
theorem readBytes_encode (text : String) :
    readBytes read (Text.encode text) = readText read text := by
  rw [readBytes, readText, Text.byteLines_encode, List.map_map]
  refine congrArg (readLines read 1) (List.map_congr_left fun line _ => ?_)
  exact Text.decode?_encode line

theorem readLines_some {rows : List ι} {body : ι → String} {item : ι → β}
    (reads : ∀ row ∈ rows, read (body row) = .ok (some (item row))) (number : Nat) :
    readLines read number ((rows.map body).map some) = .ok (rows.map item) := by
  induction rows generalizing number with
  | nil => rfl
  | cons row rows ih =>
    obtain ⟨head, tail⟩ := List.forall_mem_cons.1 reads
    rw [List.map_cons, List.map_cons, readLines, head]
    dsimp only
    rw [ih tail]
    rfl

/-- Lines that are joined are read one by one. -/
theorem readText_join {rows : List ι} {body : ι → String} {item : ι → β}
    (whole : ∀ row ∈ rows, '\n' ∉ (body row).toList)
    (closed : ∀ row ∈ rows, (body row).toList.getLast? ≠ some '\r')
    (reads : ∀ row ∈ rows, read (body row) = .ok (some (item row))) :
    readText read (String.join (rows.map fun row => body row ++ "\n")) = .ok (rows.map item) := by
  have lines := Text.lines_join (List.forall_mem_map.2 whole) (List.forall_mem_map.2 closed)
  rw [List.map_map] at lines
  rw [readText, show (fun row => body row ++ "\n") = (fun b => b ++ "\n") ∘ body from rfl, lines,
    readLines_some reads]

end Content

end RankedRetrieval

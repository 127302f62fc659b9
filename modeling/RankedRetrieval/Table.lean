/-!
# Tables

Finite maps that keep their keys in the order in which they were first written.

## Main Definitions

* `Table` — a finite map as a list of entries
* `Table.get?` — the value of a key
* `Table.insert` — the table with a key bound to a value
* `Table.adjust` — the table with the value of a key changed

## Design Notes

Writing a key that is present replaces its value in place; a new key goes to the end.  So a
table built by writing has distinct keys, and looking up takes the first entry of a key.
-/

namespace RankedRetrieval

/-- A finite map from `κ` to `β`. -/
@[ext]
structure Table (κ β : Type) where
  /-- The entries in the order of first writing. -/
  entries : List (κ × β)
  deriving DecidableEq

namespace Table

variable {κ β γ : Type} [DecidableEq κ]

/-- The table without entries. -/
def empty : Table κ β := ⟨[]⟩

instance : EmptyCollection (Table κ β) := ⟨empty⟩

instance : Inhabited (Table κ β) := ⟨empty⟩

/-- The first value of a key in a list of entries. -/
def find? (key : κ) : List (κ × β) → Option β
  | [] => none
  | (k, b) :: rest => if k = key then some b else find? key rest

/-- The entries with `key` bound to a value that is made from its value before. -/
def write (key : κ) (make : Option β → β) : List (κ × β) → List (κ × β)
  | [] => [(key, make none)]
  | (k, b) :: rest => if k = key then (k, make (some b)) :: rest else (k, b) :: write key make rest

/-- The value of a key. -/
def get? (t : Table κ β) (key : κ) : Option β :=
  find? key t.entries

/-- The table in which the value of a key is made from its value before. -/
def adjust (t : Table κ β) (key : κ) (make : Option β → β) : Table κ β :=
  ⟨write key make t.entries⟩

/-- The table with a key bound to a value. -/
def insert (t : Table κ β) (key : κ) (b : β) : Table κ β :=
  t.adjust key fun _ => b

/-- The table that results from writing entries one after the other; the last one of a key
wins. -/
def ofList (entries : List (κ × β)) : Table κ β :=
  entries.foldl (fun t entry => t.insert entry.1 entry.2) empty

/-- The keys in the order of first writing. -/
def keys (t : Table κ β) : List κ :=
  t.entries.map Prod.fst

/-! ### Lookup -/

@[simp]
theorem get?_empty (key : κ) : (empty : Table κ β).get? key = none := rfl

theorem find?_write (key other : κ) (make : Option β → β) (entries : List (κ × β)) :
    find? other (write key make entries) =
      if key = other then some (make (find? key entries)) else find? other entries := by
  induction entries with
  | nil => simp [write, find?]
  | cons entry rest ih =>
    obtain ⟨k, b⟩ := entry
    by_cases hk : k = key
    · subst hk
      by_cases ho : k = other <;> simp [write, find?, ho]
    · by_cases ho : k = other
      · subst ho
        simp [write, find?, hk, Ne.symm hk]
      · simp [write, find?, hk, ho, ih]

/-- Adjusting a key changes the value of that key only. -/
theorem get?_adjust (t : Table κ β) (key other : κ) (make : Option β → β) :
    (t.adjust key make).get? other =
      if key = other then some (make (t.get? key)) else t.get? other :=
  find?_write key other make t.entries

/-- After writing, a key has the value written and other keys have theirs. -/
theorem get?_insert (t : Table κ β) (key other : κ) (b : β) :
    (t.insert key b).get? other = if key = other then some b else t.get? other := by
  simp [insert, get?_adjust]

end Table

end RankedRetrieval

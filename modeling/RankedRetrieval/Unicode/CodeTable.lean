/-!
# Tables of code points

Character properties are data of a standard.  A table is written as text, one run of code
points per entry, and read once into a sorted array that is searched by halving.

## Main Definitions

* `CodeRun` — a run of code points that a table treats alike
* `CodeTable.ofText` — the table that a text lists
* `CodeTable.find?` — the run that holds a code point

## Design Notes

An entry is `first-last/stride:value,value`, all numerals in base 16.  `last` is `first`,
`stride` is one and the values are absent when they are not written.
-/

namespace RankedRetrieval

/-- The code points `first`, `first + stride`, … up to `last`, with the values a table
attaches to the first of them. -/
structure CodeRun where
  /-- The least code point of the run. -/
  first : Nat
  /-- The greatest code point of the run. -/
  last : Nat
  /-- The distance between two neighbours of the run. -/
  stride : Nat
  /-- What the table says of the run. -/
  values : List Nat

/-- Runs in increasing order, no two of which overlap. -/
structure CodeTable where
  /-- The runs of the table. -/
  runs : Array CodeRun

namespace CodeTable

/-- The value of a digit in base 16. -/
def hexDigit (c : Char) : Nat :=
  if c.isDigit then c.toNat - '0'.toNat else c.toNat - 'A'.toNat + 10

/-- The value of a numeral in base 16. -/
def hexNumeral (s : String) : Nat :=
  s.toList.foldl (fun value c => 16 * value + hexDigit c) 0

/-- The two sides of the first separator; the right side is empty when there is none. -/
def cut (separator : String) (s : String) : String × String :=
  match s.splitOn separator with
  | [] => (s, "")
  | head :: tail => (head, separator.intercalate tail)

/-- The run that one entry describes. -/
def runOfEntry (entry : String) : CodeRun :=
  let (codes, values) := cut ":" entry
  let (range, stride) := cut "/" codes
  let (first, last) := cut "-" range
  { first := hexNumeral first
    last := if last.isEmpty then hexNumeral first else hexNumeral last
    stride := if stride.isEmpty then 1 else hexNumeral stride
    values := if values.isEmpty then [] else (values.splitOn ",").map hexNumeral }

/-- The table that a text lists, its entries separated by blanks or line ends. -/
def ofText (text : String) : CodeTable where
  runs :=
    let entries := (text.splitOn "\n").flatMap fun line => line.splitOn " "
    ((entries.filter fun entry => !entry.isEmpty).map runOfEntry).toArray

/-- Halves the interval from `low` up to `high` until it holds the run of `code` or nothing.
The first argument bounds the number of halvings. -/
def search (runs : Array CodeRun) (code : Nat) : Nat → Nat → Nat → Option CodeRun
  | 0, _, _ => none
  | steps + 1, low, high =>
    if low < high then
      let middle := (low + high) / 2
      match runs[middle]? with
      | none => none
      | some run =>
        if code < run.first then search runs code steps low middle
        else if run.last < code then search runs code steps (middle + 1) high
        else if (code - run.first) % run.stride = 0 then some run
        else none
    else none

/-- The run that holds a code point. -/
def find? (table : CodeTable) (code : Nat) : Option CodeRun :=
  search table.runs code (table.runs.size + 1) 0 table.runs.size

/-- Whether some run of the table holds a code point. -/
def holds (table : CodeTable) (code : Nat) : Bool :=
  (table.find? code).isSome

end CodeTable

end RankedRetrieval

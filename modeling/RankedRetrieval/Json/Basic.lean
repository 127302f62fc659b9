/-!
# JSON values

## Main Definitions

* `Json` — the values of the notation
* `Json.quote` — a text as a JSON string

## Design Notes

A reader of this library asks for texts and naturals only, so other numbers are kept without
their value, and a string whose escapes form no text is kept without one.
-/

namespace RankedRetrieval

/-- A value in JSON. -/
inductive Json where
  /-- The value `null`. -/
  | null
  /-- A truth value. -/
  | boolean (value : Bool)
  /-- A number that is written with digits only. -/
  | natural (value : Nat)
  /-- Any other number. -/
  | otherNumber
  /-- A string; nothing when its escapes form no text. -/
  | text (value : Option String)
  /-- An array. -/
  | array (items : List Json)
  /-- An object with its members in order. -/
  | object (members : List (Option String × Json))

namespace Json

/-- The digit of a hexadecimal numeral. -/
def hexDigit (n : Nat) : Char :=
  if n < 10 then Char.ofNat ('0'.toNat + n) else Char.ofNat ('a'.toNat + (n - 10))

/-- A character as it stands in a string. -/
def quoteChar (c : Char) : List Char :=
  if c = '"' then ['\\', '"']
  else if c = '\\' then ['\\', '\\']
  else if c = '\n' then ['\\', 'n']
  else if c = '\r' then ['\\', 'r']
  else if c = '\t' then ['\\', 't']
  else if c.toNat = 8 then ['\\', 'b']
  else if c.toNat = 12 then ['\\', 'f']
  else if c.toNat < 32 then ['\\', 'u', '0', '0', hexDigit (c.toNat / 16), hexDigit (c.toNat % 16)]
  else [c]

/-- A text as a JSON string. -/
def quote (text : String) : String :=
  String.ofList (['"'] ++ text.toList.flatMap quoteChar ++ ['"'])

end Json

end RankedRetrieval

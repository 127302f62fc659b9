import RankedRetrieval.Decimal.Digits
import RankedRetrieval.Json.Basic

/-!
# Reading JSON

## Main Definitions

* `Json.parse?` — the value that a text denotes

## Design Notes

Every value takes at least one character, and so does every separator, so twice the length of a
text bounds the depth of the recursion over its values.
-/

namespace RankedRetrieval.Json

/-- The text without the blanks at its start. -/
def skipBlanks : List Char → List Char
  | [] => []
  | c :: rest =>
    if c = ' ' || c = '\t' || c = '\n' || c = '\r' then skipBlanks rest else c :: rest

/-! ### Strings -/

/-- The value of a hexadecimal digit. -/
def hexValue? (c : Char) : Option Nat :=
  if '0' ≤ c && c ≤ '9' then some (c.toNat - '0'.toNat)
  else if 'a' ≤ c && c ≤ 'f' then some (c.toNat - 'a'.toNat + 10)
  else if 'A' ≤ c && c ≤ 'F' then some (c.toNat - 'A'.toNat + 10)
  else none

/-- The value of four hexadecimal digits. -/
def hexUnit? (a b c d : Char) : Option Nat :=
  match hexValue? a, hexValue? b, hexValue? c, hexValue? d with
  | some p, some q, some r, some s => some (((p * 16 + q) * 16 + r) * 16 + s)
  | _, _, _, _ => none

/-- The character that a short escape stands for. -/
def shortEscape? (c : Char) : Option Nat :=
  if c = '"' || c = '\\' || c = '/' then some c.toNat
  else if c = 'b' then some 8
  else if c = 'f' then some 12
  else if c = 'n' then some 10
  else if c = 'r' then some 13
  else if c = 't' then some 9
  else none

/-- The code points and code units of a string up to its closing quote, and what follows. -/
def readUnits? : List Char → Option (List Nat × List Char)
  | [] => none
  | '"' :: rest => some ([], rest)
  | '\\' :: 'u' :: a :: b :: c :: d :: rest =>
    match hexUnit? a b c d with
    | none => none
    | some unit => (readUnits? rest).map fun (units, after) => (unit :: units, after)
  | '\\' :: c :: rest =>
    match shortEscape? c with
    | none => none
    | some unit => (readUnits? rest).map fun (units, after) => (unit :: units, after)
  | c :: rest =>
    if c = '\\' || c.toNat < 32 then none
    else (readUnits? rest).map fun (units, after) => (c.toNat :: units, after)

/-- Whether a code unit is the first half of a pair. -/
def isHighHalf (unit : Nat) : Bool := 0xD800 ≤ unit && unit < 0xDC00

/-- Whether a code unit is the second half of a pair. -/
def isLowHalf (unit : Nat) : Bool := 0xDC00 ≤ unit && unit < 0xE000

/-- The characters of code points and paired code units; nothing when a half stands alone. -/
def joinUnits? : List Nat → Option (List Char)
  | [] => some []
  | unit :: rest =>
    if isLowHalf unit then none
    else if isHighHalf unit then
      match rest with
      | [] => none
      | low :: others =>
        if isLowHalf low then
          (joinUnits? others).map fun cs =>
            Char.ofNat (0x10000 + (unit - 0xD800) * 0x400 + (low - 0xDC00)) :: cs
        else none
    else (joinUnits? rest).map fun cs => Char.ofNat unit :: cs

/-- A string after its opening quote, and what follows it. -/
def readText? (cs : List Char) : Option (Option String × List Char) :=
  (readUnits? cs).map fun (units, after) => ((joinUnits? units).map String.ofList, after)

/-! ### Numbers -/

/-- What follows at least one digit. -/
def skipDigits? (cs : List Char) : Option (List Char) :=
  match cs with
  | [] => none
  | c :: rest => if Decimal.isDigit c then some (rest.dropWhile Decimal.isDigit) else none

/-- What follows the whole part of a number, which has no zero in front of other digits. -/
def skipWhole? : List Char → Option (List Char)
  | '0' :: rest => some rest
  | cs => skipDigits? cs

/-- What follows the fraction of a number, which may be missing. -/
def skipFraction? : List Char → Option (List Char)
  | '.' :: rest => skipDigits? rest
  | cs => some cs

/-- What follows the exponent of a number, which may be missing. -/
def skipExponent? : List Char → Option (List Char)
  | [] => some []
  | e :: rest =>
    if e = 'e' || e = 'E' then
      match rest with
      | '+' :: ds => skipDigits? ds
      | '-' :: ds => skipDigits? ds
      | ds => skipDigits? ds
    else some (e :: rest)

/-- A number without a sign, and what follows it. -/
def readNumber? (cs : List Char) : Option (Json × List Char) := do
  let afterWhole ← skipWhole? cs
  let after ← skipFraction? afterWhole >>= skipExponent?
  if after.length = afterWhole.length then
    return (natural (Decimal.value (cs.take (cs.length - after.length))), after)
  else return (otherNumber, after)

/-! ### Values -/

/-- What follows a word at the start of a text. -/
def skipWord? (word : String) (cs : List Char) : Option (List Char) :=
  if word.toList.isPrefixOf cs then some (cs.drop word.length) else none

mutual
/-- A value at the start of a text, and what follows it. -/
def readValue? : Nat → List Char → Option (Json × List Char)
  | 0, _ => none
  | fuel + 1, cs =>
    match skipBlanks cs with
    | '"' :: rest => (readText? rest).map fun (s, after) => (text s, after)
    | '[' :: rest =>
      match skipBlanks rest with
      | ']' :: after => some (array [], after)
      | _ => (readItems? fuel rest).map fun (items, after) => (array items, after)
    | '{' :: rest =>
      match skipBlanks rest with
      | '}' :: after => some (object [], after)
      | _ => (readMembers? fuel rest).map fun (members, after) => (object members, after)
    | 't' :: rest => (skipWord? "rue" rest).map fun after => (boolean true, after)
    | 'f' :: rest => (skipWord? "alse" rest).map fun after => (boolean false, after)
    | 'n' :: rest => (skipWord? "ull" rest).map fun after => (null, after)
    | '-' :: rest => (readNumber? rest).map fun (_, after) => (otherNumber, after)
    | rest => readNumber? rest

/-- The items of an array up to its end, and what follows it. -/
def readItems? : Nat → List Char → Option (List Json × List Char)
  | 0, _ => none
  | fuel + 1, cs =>
    match readValue? fuel cs with
    | none => none
    | some (item, rest) =>
      match skipBlanks rest with
      | ',' :: others =>
        (readItems? fuel others).map fun (items, after) => (item :: items, after)
      | ']' :: after => some ([item], after)
      | _ => none

/-- The members of an object up to its end, and what follows it. -/
def readMembers? : Nat → List Char → Option (List (Option String × Json) × List Char)
  | 0, _ => none
  | fuel + 1, cs =>
    match skipBlanks cs with
    | '"' :: rest =>
      match readText? rest with
      | none => none
      | some (name, afterName) =>
        match skipBlanks afterName with
        | ':' :: valueText =>
          match readValue? fuel valueText with
          | none => none
          | some (value, rest) =>
            match skipBlanks rest with
            | ',' :: others =>
              (readMembers? fuel others).map fun (members, after) =>
                ((name, value) :: members, after)
            | '}' :: after => some ([(name, value)], after)
            | _ => none
        | _ => none
    | _ => none
end

/-- The value that a text denotes. -/
def parse? (source : String) : Option Json :=
  match readValue? (2 * source.length + 2) source.toList with
  | some (value, rest) => if (skipBlanks rest).isEmpty then some value else none
  | none => none

end RankedRetrieval.Json

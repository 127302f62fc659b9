import RankedRetrieval.Files.Store
import RankedRetrieval.Script.Arithmetic

/-!
# Conditions of scripts

## Main Definitions

* `Script.Condition` — something that is true or false of texts and files
* `Script.Condition.read?` — the condition that words denote
* `Script.Condition.holds?` — whether it is true

## Design Notes

A condition has no truth when it compares something else than numbers as numbers.
-/

namespace RankedRetrieval.Script

/-- Something that is true or false of texts and files. -/
inductive Condition where
  /-- It is true of some texts. -/
  | nonempty (text : String)
  /-- A property of a text or of the file at a path. -/
  | unary (sign text : String)
  /-- A relation between two texts. -/
  | binary (sign left right : String)
  /-- The contrary of a condition. -/
  | negate (inner : Condition)
  /-- Two conditions at once. -/
  | both (first second : Condition)
  /-- One of two conditions. -/
  | either (first second : Condition)
  deriving DecidableEq

namespace Condition

/-- Signs of properties. -/
def unarySigns : List String :=
  ["-n", "-z", "-e", "-f", "-d", "-s", "-r", "-w", "-x", "-L", "-h", "-p", "-S", "-b", "-c", "-t",
    "-u", "-g", "-k", "-O", "-G"]

/-- Signs of relations. -/
def binarySigns : List String :=
  ["=", "==", "!=", "<", ">", "-eq", "-ne", "-lt", "-le", "-gt", "-ge", "-nt", "-ot", "-ef"]

mutual
/-- The condition at the front of some words.  The first argument of this and the following
functions bounds the number of steps. -/
def readEither : Nat → List String → Option (Condition × List String)
  | 0, _ => none
  | fuel + 1, words => do
    let (first, after) ← readBoth fuel words
    match after with
    | "-o" :: rest =>
      let (second, left) ← readEither fuel rest
      return (.either first second, left)
    | _ => return (first, after)

/-- The condition at the front of some words that is no alternative. -/
def readBoth : Nat → List String → Option (Condition × List String)
  | 0, _ => none
  | fuel + 1, words => do
    let (first, after) ← readNegated fuel words
    match after with
    | "-a" :: rest =>
      let (second, left) ← readBoth fuel rest
      return (.both first second, left)
    | _ => return (first, after)

/-- The condition at the front of some words that may be negated. -/
def readNegated : Nat → List String → Option (Condition × List String)
  | 0, _ => none
  | fuel + 1, "!" :: second :: rest =>
    (readNegated fuel (second :: rest)).map fun (inner, left) => (.negate inner, left)
  | fuel + 1, words => readPrimary fuel words

/-- The condition at the front of some words that joins no others. -/
def readPrimary : Nat → List String → Option (Condition × List String)
  | 0, _ => none
  | fuel + 1, words =>
    match words with
    | first :: sign :: second :: rest =>
      if binarySigns.contains sign then some (.binary sign first second, rest)
      else if first = "(" then do
        let (inner, after) ← readEither fuel (sign :: second :: rest)
        match after with
        | ")" :: left => return (inner, left)
        | _ => none
      else if unarySigns.contains first then some (.unary first sign, second :: rest)
      else some (.nonempty first, sign :: second :: rest)
    | [first, second] =>
      if unarySigns.contains first then some (.unary first second, [])
      else some (.nonempty first, [second])
    | [first] => some (.nonempty first, [])
    | [] => some (.nonempty "", [])
end

/-- The condition that words denote by the rules for long conditions. -/
def readLong? (words : List String) : Option Condition :=
  match readEither (4 * words.length + 4) words with
  | some (condition, []) => some condition
  | _ => none

/-- The condition that words denote. -/
def read? (words : List String) : Option Condition :=
  match words with
  | [] => some (.nonempty "")
  | ["!"] => some (.nonempty "!")
  | [first, sign, second] =>
    if binarySigns.contains sign then some (.binary sign first second)
    else if first = "(" && second = ")" then some (.nonempty sign)
    else readLong? words
  | _ => readLong? words

/-- Whether a file has a property. -/
def fileHolds (s : FileStore) (sign path : String) : Bool :=
  match s.find path with
  | .error _ => false
  | .ok .directory => ["-e", "-d", "-s", "-r", "-w", "-x", "-O", "-G"].contains sign
  | .ok (.file bytes) =>
    match sign, s.locate path with
    | "-s", _ => !bytes.isEmpty
    | "-x", .ok l => s.canRun l
    | "-f", .ok l => !l.isDevice
    | "-c", .ok l => l.isDevice
    | _, _ => ["-e", "-r", "-w", "-O", "-G"].contains sign

/-- Whether two numbers are in a relation. -/
def compare (sign : String) (m n : Int64) : Bool :=
  match sign with
  | "-eq" => m = n
  | "-ne" => m ≠ n
  | "-lt" => m < n
  | "-le" => m ≤ n
  | "-gt" => n < m
  | _ => n ≤ m

/-- The number that a text in base 10 denotes. -/
def decimal? (text : String) : Option Int64 :=
  let cs := (text.toList.dropWhile isSeparator).reverse.dropWhile isSeparator |>.reverse
  let (negative, ds) :=
    match cs with
    | '-' :: ds => (true, ds)
    | '+' :: ds => (false, ds)
    | ds => (false, ds)
  let (n, rest) := readBase 10 0 ds
  if ds.isEmpty || !rest.isEmpty then none
  else fitted? (if negative then -(n : Int) else n)

/-- The count that a text in base 10 denotes. -/
def count? (text : String) : Option Nat :=
  (decimal? text).bind fun n =>
    if 0 ≤ n && n ≤ 2147483647 then some n.toInt.toNat else none

/-- Whether two texts are in a relation. -/
def binaryHolds? (s : FileStore) (sign left right : String) : Option Bool :=
  match sign with
  | "=" | "==" => some (left = right)
  | "!=" => some (left ≠ right)
  | "<" => some (left < right)
  | ">" => some (right < left)
  | "-nt" => some (fileHolds s "-e" left && !fileHolds s "-e" right)
  | "-ot" => some (!fileHolds s "-e" left && fileHolds s "-e" right)
  | "-ef" => some (s.sameFile left right)
  | _ => do
    let m ← decimal? left
    let n ← decimal? right
    return compare sign m n

/-- Whether a condition is true of some files. -/
def holds? (s : FileStore) : Condition → Option Bool
  | nonempty text => some (text ≠ "")
  | unary "-n" text => some (text ≠ "")
  | unary "-z" text => some (text = "")
  | unary sign path => some (fileHolds s sign path)
  | binary sign left right => binaryHolds? s sign left right
  | negate inner => (inner.holds? s).map (! ·)
  | both first second => do
    let b ← first.holds? s
    if b then second.holds? s else return false
  | either first second => do
    let b ← first.holds? s
    if b then return true else second.holds? s

/-- The status of testing the condition that words denote: it is 0 for a true condition, 1 for a
false one, and 2 when there is none. -/
def status (s : FileStore) (words : List String) : Nat :=
  match read? words >>= fun condition => condition.holds? s with
  | some true => 0
  | some false => 1
  | none => 2

end Condition

end RankedRetrieval.Script

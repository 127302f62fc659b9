import RankedRetrieval.Script.Word
import RankedRetrieval.Table

/-!
# Arithmetic of scripts

## Main Definitions

* `Script.Expression` — an arithmetic expression
* `Script.readExpression?` — the expression that a text denotes
* `Script.Expression.value?` — its value, and the variables after it

## Design Notes

Numbers are words of 64 bits, and a sum that does not fit wraps around.  A variable without a
value counts as zero.  An expression has no value when it divides by zero or when a variable in
it holds something else than a number.
-/

namespace RankedRetrieval.Script

/-- An arithmetic expression. -/
inductive Expression where
  /-- A number. -/
  | number (n : Int64)
  /-- The value of a variable. -/
  | parameter (name : String)
  /-- A sign in front of an expression. -/
  | signed (sign : String) (e : Expression)
  /-- A sign between two expressions. -/
  | binary (sign : String) (left right : Expression)
  /-- An expression that is chosen by another one. -/
  | choose (condition yes no : Expression)
  /-- A value for a variable, which a sign combines with its value before. -/
  | assign (name sign : String) (e : Expression)
  deriving DecidableEq

/-! ### Numerals -/

/-- The value of a digit, letters included. -/
def digitValue? (c : Char) : Option Nat :=
  if c.isDigit then some (c.toNat - '0'.toNat)
  else if 'a' ≤ c && c ≤ 'f' then some (c.toNat - 'a'.toNat + 10)
  else if 'A' ≤ c && c ≤ 'F' then some (c.toNat - 'A'.toNat + 10)
  else none

/-- The number that digits at the front of a text add to a value, and what follows them. -/
def readBase (base : Nat) (n : Nat) : List Char → Nat × List Char
  | [] => (n, [])
  | c :: rest =>
    match digitValue? c with
    | some d => if d < base then readBase base (base * n + d) rest else (n, c :: rest)
    | none => (n, c :: rest)

/-- The number at the front of a text that begins with a digit; a zero in front announces base 8,
and an `x` behind it base 16. -/
def readNumeral : List Char → Nat × List Char
  | '0' :: x :: d :: rest =>
    if (x = 'x' || x = 'X') && (digitValue? d).isSome then readBase 16 0 (d :: rest)
    else readBase 8 0 (x :: d :: rest)
  | '0' :: rest => readBase 8 0 rest
  | cs => readBase 10 0 cs

/-- Whether a character separates words. -/
def isSeparator (c : Char) : Bool := c = ' ' || c = '\t' || c = '\n'

/-- The greatest number. -/
def greatestNumber : Nat := Nat.pow 2 63 - 1

/-- The number that an integer is, unless it is too large or too small for one. -/
def fitted? (z : Int) : Option Int64 :=
  if -(greatestNumber : Int) - 1 ≤ z && z ≤ greatestNumber then some (Int64.ofInt z) else none

/-- The number at the front of a text and what follows it.  A text without a number begins with
zero. -/
def splitNumber (text : String) : Int × List Char :=
  let cs := text.toList.dropWhile isSeparator
  let read (after : List Char) : Option (Nat × List Char) :=
    if after.head?.any Char.isDigit then some (readNumeral after) else none
  match cs with
  | '-' :: after => ((read after).map fun (n, rest) => (-(n : Int), rest)).getD (0, text.toList)
  | '+' :: after => ((read after).map fun (n, rest) => ((n : Int), rest)).getD (0, text.toList)
  | _ => ((read cs).map fun (n, rest) => ((n : Int), rest)).getD (0, text.toList)

/-- The number that a variable holds. -/
def numberOf? (text : String) : Option Int64 :=
  let (n, rest) := splitNumber text
  if rest.all isSeparator then fitted? n else none

/-! ### Symbols -/

/-- A symbol of an expression. -/
inductive Symbol where
  /-- A number. -/
  | number (n : Int64)
  /-- The name of a variable. -/
  | name (text : String)
  /-- A sign. -/
  | sign (text : String)
  deriving DecidableEq

/-- Signs of assignments. -/
def assignmentSigns : List String :=
  ["<<=", ">>=", "+=", "-=", "*=", "/=", "%=", "&=", "|=", "^=", "="]

/-- Signs between expressions; those of a list bind tighter than those of the lists before. -/
def binarySigns : List (List String) :=
  [["||"], ["&&"], ["|"], ["^"], ["&"], ["==", "!="], ["<=", ">=", "<", ">"], ["<<", ">>"],
    ["+", "-"], ["*", "/", "%"]]

/-- All signs, the longer ones first. -/
def allSigns : List String :=
  ["<<=", ">>=", "||", "&&", "==", "!=", "<=", ">=", "<<", ">>", "+=", "-=", "*=", "/=", "%=",
    "&=", "|=", "^=", "|", "^", "&", "<", ">", "+", "-", "*", "/", "%", "=", "!", "~", "?", ":",
    "(", ")"]

/-- The symbols of a text.  The first argument bounds the number of steps. -/
def symbols? : Nat → List Char → Option (List Symbol)
  | 0, _ => none
  | _ + 1, [] => some []
  | fuel + 1, c :: rest =>
    if isSeparator c then symbols? fuel rest
    else if c.isDigit then
      let (n, after) := readNumeral (c :: rest)
      (symbols? fuel after).map (.number (Int64.ofInt (min n greatestNumber : Nat)) :: ·)
    else if isNameChar c then
      (symbols? fuel ((c :: rest).dropWhile isNameChar)).map
        (.name (String.ofList ((c :: rest).takeWhile isNameChar)) :: ·)
    else
      match allSigns.find? fun sign => sign.toList.isPrefixOf (c :: rest) with
      | some sign => (symbols? fuel ((c :: rest).drop sign.length)).map (.sign sign :: ·)
      | none => none

/-! ### Expressions -/

mutual
/-- The expression at the front of some symbols, which may be an assignment.  The first argument
of this and the following functions bounds the number of steps. -/
def readAssignment : Nat → List Symbol → Option (Expression × List Symbol)
  | 0, _ => none
  | fuel + 1, .name x :: .sign sign :: rest =>
    if assignmentSigns.contains sign then do
      let (e, after) ← readAssignment fuel rest
      return (.assign x (String.ofList sign.toList.dropLast) e, after)
    else readChoose fuel (.name x :: .sign sign :: rest)
  | fuel + 1, symbols => readChoose fuel symbols

/-- The expression at the front of some symbols, which may be chosen by another one. -/
def readChoose : Nat → List Symbol → Option (Expression × List Symbol)
  | 0, _ => none
  | fuel + 1, symbols => do
    let (condition, after) ← readBinary fuel binarySigns symbols
    match after with
    | .sign "?" :: rest =>
      let (yes, behind) ← readAssignment fuel rest
      match behind with
      | .sign ":" :: later =>
        let (no, left) ← readChoose fuel later
        return (.choose condition yes no, left)
      | _ => none
    | _ => return (condition, after)

/-- The expression at the front of some symbols that holds no sign but those given. -/
def readBinary : Nat → List (List String) → List Symbol → Option (Expression × List Symbol)
  | 0, _, _ => none
  | fuel + 1, [], symbols => readSigned fuel symbols
  | fuel + 1, signs :: tighter, symbols => do
    let (left, after) ← readBinary fuel tighter symbols
    readOperands fuel signs tighter left after

/-- What signs add to an expression. -/
def readOperands : Nat → List String → List (List String) → Expression → List Symbol →
    Option (Expression × List Symbol)
  | 0, _, _, _, _ => none
  | fuel + 1, signs, tighter, left, .sign sign :: rest =>
    if signs.contains sign then do
      let (right, after) ← readBinary fuel tighter rest
      readOperands fuel signs tighter (.binary sign left right) after
    else some (left, .sign sign :: rest)
  | _ + 1, _, _, left, symbols => some (left, symbols)

/-- The expression at the front of some symbols that holds no sign between expressions outside
of brackets. -/
def readSigned : Nat → List Symbol → Option (Expression × List Symbol)
  | 0, _ => none
  | _ + 1, .number n :: rest => some (.number n, rest)
  | _ + 1, .name x :: rest => some (.parameter x, rest)
  | fuel + 1, .sign "(" :: rest => do
    let (e, after) ← readAssignment fuel rest
    match after with
    | .sign ")" :: left => return (e, left)
    | _ => none
  | fuel + 1, .sign sign :: rest =>
    if ["-", "+", "!", "~"].contains sign then
      (readSigned fuel rest).map fun (e, left) => (.signed sign e, left)
    else none
  | _ + 1, [] => none
end

/-- The expression that symbols make up. -/
def wholeExpression? (symbols : List Symbol) : Option Expression :=
  match readAssignment (16 * symbols.length + 32) symbols with
  | some (e, []) => some e
  | _ => none

/-- The expression that a text denotes. -/
def readExpression? (text : String) : Option Expression :=
  symbols? (text.length + 1) text.toList >>= wholeExpression?

/-! ### Values -/

/-- The number that stands for the truth of something. -/
def truth (b : Bool) : Int64 := if b then 1 else 0

/-- The value of a sign between two numbers. -/
def combine? (sign : String) (m n : Int64) : Option Int64 :=
  match sign with
  | "+" => some (m + n)
  | "-" => some (m - n)
  | "*" => some (m * n)
  | "/" => if n = 0 then none else some (m / n)
  | "%" => if n = 0 then none else some (m % n)
  | "<<" => some (m <<< n)
  | ">>" => some (m >>> n)
  | "&" => some (m &&& n)
  | "|" => some (m ||| n)
  | "^" => some (m ^^^ n)
  | "==" => some (truth (m = n))
  | "!=" => some (truth (m ≠ n))
  | "<" => some (truth (m < n))
  | "<=" => some (truth (m ≤ n))
  | ">" => some (truth (n < m))
  | ">=" => some (truth (n ≤ m))
  | _ => none

/-- The value of a sign in front of a number. -/
def applySign (sign : String) (n : Int64) : Int64 :=
  match sign with
  | "-" => -n
  | "!" => truth (n = 0)
  | "~" => ~~~n
  | _ => n

namespace Expression

/-- The number that a variable holds. -/
def parameter? (bindings : Table String String) (name : String) : Option Int64 :=
  numberOf? ((bindings.get? name).getD "")

/-- The value of an expression, and the variables after it. -/
def value? (bindings : Table String String) :
    Expression → Option (Int64 × Table String String)
  | number n => some (n, bindings)
  | parameter name => (parameter? bindings name).map fun n => (n, bindings)
  | signed sign e => (e.value? bindings).map fun (n, after) => (applySign sign n, after)
  | binary sign left right => do
    let (m, after) ← left.value? bindings
    if sign = "&&" && m = 0 then return (0, after)
    else if sign = "||" && m ≠ 0 then return (1, after)
    else
      let (n, final) ← right.value? after
      if sign = "&&" || sign = "||" then return (truth (n ≠ 0), final)
      else (combine? sign m n).map fun value => (value, final)
  | choose condition yes no => do
    let (m, after) ← condition.value? bindings
    if m ≠ 0 then yes.value? after else no.value? after
  | assign name sign e => do
    let (n, after) ← e.value? bindings
    let value ←
      if sign = "" then some n else parameter? after name >>= fun m => combine? sign m n
    return (value, after.insert name value.toInt.repr)

end Expression

end RankedRetrieval.Script

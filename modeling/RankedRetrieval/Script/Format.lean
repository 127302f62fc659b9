import RankedRetrieval.Decimal.Digits
import RankedRetrieval.Decimal.Fixed
import RankedRetrieval.Decimal.Reading
import RankedRetrieval.Script.Arithmetic
import RankedRetrieval.Text.Line

/-!
# Formatted output of scripts

What scripts write: texts with escapes, and formats that are filled with arguments.

## Main Definitions

* `Script.unescape` — the bytes of a text with escapes
* `Script.Format.read?` — the pieces of a format
* `Script.Format.write` — the bytes of a format with its arguments

## Design Notes

A format is used again as long as arguments are left, and an argument that is missing counts as
empty.
-/

namespace RankedRetrieval.Script

/-- The bytes of some characters. -/
def encodeChars (cs : List Char) : List UInt8 := Text.encode (String.ofList cs)

/-! ### Escapes -/

/-- What an escape stands for. -/
inductive Escape where
  /-- A byte. -/
  | byte (b : UInt8)
  /-- The end of all output. -/
  | stop
  deriving DecidableEq

/-- The byte that up to `digits` digits in base 8 add to a value, and what follows them. -/
def readOctal : Nat → Nat → List Char → UInt8 × List Char
  | digits + 1, n, c :: rest =>
    if '0' ≤ c && c ≤ '7' then readOctal digits (8 * n + (c.toNat - '0'.toNat)) rest
    else (UInt8.ofNat n, c :: rest)
  | _, n, cs => (UInt8.ofNat n, cs)

/-- The byte that a letter behind a backslash stands for. -/
def letterEscape? (c : Char) : Option UInt8 :=
  match c with
  | 'a' => some 7
  | 'b' => some 8
  | 't' => some 9
  | 'n' => some 10
  | 'v' => some 11
  | 'f' => some 12
  | 'r' => some 13
  | 'e' => some 27
  | '\\' => some 92
  | _ => none

/-- The escape at the front of what follows a backslash, and what follows the escape.  In a text
that is no format a zero may stand in front of the digits, and output can be ended. -/
def readEscape (inFormat : Bool) : List Char → Escape × List Char
  | [] => (.byte 92, [])
  | c :: rest =>
    if c = 'c' && !inFormat then (.stop, rest)
    else if c = '0' && !inFormat then
      let (b, after) := readOctal 3 0 rest
      (.byte b, after)
    else if '0' ≤ c && c ≤ '7' then
      let (b, after) := readOctal 3 0 (c :: rest)
      (.byte b, after)
    else
      match letterEscape? c with
      | some b => (.byte b, rest)
      | none => (.byte 92, c :: rest)

/-- The bytes of a text with escapes, and whether output ends with them.  The first argument
bounds the number of steps. -/
def unescapeChars : Nat → List Char → List UInt8 × Bool
  | 0, _ => ([], false)
  | _ + 1, [] => ([], false)
  | fuel + 1, '\\' :: rest =>
    match readEscape false rest with
    | (.stop, _) => ([], true)
    | (.byte b, after) =>
      let (later, stopped) := unescapeChars fuel after
      (b :: later, stopped)
  | fuel + 1, c :: rest =>
    let (later, stopped) := unescapeChars fuel rest
    (encodeChars [c] ++ later, stopped)

/-- The bytes of a text with escapes, and whether output ends with them. -/
def unescape (text : String) : List UInt8 × Bool :=
  unescapeChars (text.length + 1) text.toList

namespace Format

/-! ### Formats -/

/-- The number of characters that a directive asks for. -/
inductive Measure where
  /-- As the format says. -/
  | given (n : Nat)
  /-- As the next argument says. -/
  | argument
  deriving DecidableEq

/-- A place in a format that an argument fills. -/
structure Directive where
  /-- The signs behind the percent sign. -/
  flags : List Char
  /-- The least number of characters. -/
  width? : Option Measure
  /-- The number of places, digits or characters. -/
  precision? : Option Measure
  /-- How the argument is written. -/
  conversion : Char
  deriving DecidableEq

/-- A piece of a format. -/
inductive Piece where
  /-- A byte. -/
  | byte (b : UInt8)
  /-- A place that an argument fills. -/
  | directive (d : Directive)
  deriving DecidableEq

/-- The number of characters at the front of a text that a directive asks for. -/
def readMeasure : List Char → Option Measure × List Char
  | '*' :: rest => (some .argument, rest)
  | c :: rest =>
    if c.isDigit then
      let (n, after) := readBase 10 0 (c :: rest)
      (some (.given n), after)
    else (none, c :: rest)
  | [] => (none, [])

/-- The directive that follows a percent sign, and what follows it. -/
def readDirective? (cs : List Char) : Option (Directive × List Char) :=
  let isFlag (c : Char) : Bool := "-+ 0#".toList.contains c
  let flags := cs.takeWhile isFlag
  let (width?, afterWidth) := readMeasure (cs.dropWhile isFlag)
  let (precision?, afterPrecision) :=
    match afterWidth with
    | '.' :: rest =>
      let (measure?, after) := readMeasure rest
      (some (measure?.getD (.given 0)), after)
    | _ => (none, afterWidth)
  match afterPrecision with
  | c :: rest =>
    if "%diuoxXfFscb".toList.contains c then some (⟨flags, width?, precision?, c⟩, rest) else none
  | [] => none

/-- The pieces of a format up to a directive that makes no sense, and whether there is none.  The
first argument bounds the number of steps. -/
def readPieces : Nat → List Char → List Piece × Bool
  | 0, _ => ([], false)
  | _ + 1, [] => ([], true)
  | fuel + 1, '\\' :: rest =>
    match readEscape true rest with
    | (.byte b, after) =>
      let (later, complete) := readPieces fuel after
      (.byte b :: later, complete)
    | (.stop, _) => ([], true)
  | fuel + 1, '%' :: rest =>
    match readDirective? rest with
    | some (d, after) =>
      let (later, complete) := readPieces fuel after
      (.directive d :: later, complete)
    | none => ([], false)
  | fuel + 1, c :: rest =>
    let (later, complete) := readPieces fuel rest
    ((encodeChars [c]).map .byte ++ later, complete)

/-- The pieces of a format, and whether all of it makes sense. -/
def read (text : String) : List Piece × Bool :=
  readPieces (text.length + 1) text.toList

/-! ### Arguments -/

/-- The integer that an argument denotes, and whether all of it does. -/
def integer (argument : String) : Int × Bool :=
  match argument.toList with
  | [] => (0, true)
  | c :: rest =>
    if c = '\x27' || c = '"' then
      (((rest.head?.map Char.toNat).getD 0 : Nat), true)
    else
      let (n, after) := splitNumber argument
      (n, after.isEmpty)

/-- The number that an argument denotes, and whether it does. -/
def real (argument : String) : Float × Bool :=
  if argument.isEmpty then (0, true)
  else
    match Decimal.readNumber argument with
    | .ok x => (x.value, true)
    | .error _ => (0, false)

/-- Bytes with blanks up to a width. -/
def pad (left : Bool) (width : Nat) (bytes : List UInt8) : List UInt8 :=
  let blanks := List.replicate (width - bytes.length) 32
  if left then bytes ++ blanks else blanks ++ bytes

/-- Digits behind their sign, up to a width. -/
def padNumber (flags : List Char) (width : Nat) (fillsZeros : Bool) (sign digits : List Char) :
    List UInt8 :=
  if fillsZeros && flags.contains '0' && !flags.contains '-' then
    encodeChars (sign ++ Decimal.padLeft (width - sign.length) digits)
  else pad (flags.contains '-') width (encodeChars (sign ++ digits))

/-- The sign in front of a number. -/
def signOf (flags : List Char) (negative : Bool) : List Char :=
  if negative then ['-']
  else if flags.contains '+' then ['+']
  else if flags.contains ' ' then [' ']
  else []

/-- The numbers that a word can hold. -/
def wordSize : Nat := Nat.pow 2 64

/-- An integer in the form of a directive. -/
def formatInteger (d : Directive) (width : Nat) (precision? : Option Nat) (n : Int) :
    List UInt8 :=
  let isSigned := d.conversion = 'd' || d.conversion = 'i'
  let magnitude := if isSigned then n.natAbs else (n % (wordSize : Int)).toNat
  let digits :=
    match d.conversion with
    | 'o' => Nat.toDigits 8 magnitude
    | 'x' => Nat.toDigits 16 magnitude
    | 'X' => (Nat.toDigits 16 magnitude).map Char.toUpper
    | _ => Nat.toDigits 10 magnitude
  let shown := if precision? = some 0 && magnitude = 0 then [] else digits
  let sign :=
    if isSigned then signOf d.flags (n < 0)
    else if d.flags.contains '#' && d.conversion ≠ 'u' && magnitude ≠ 0 then
      if d.conversion = 'o' then ['0'] else ['0', d.conversion]
    else []
  padNumber d.flags width precision?.isNone sign (Decimal.padLeft (precision?.getD 0) shown)

/-- A number with places in the form of a directive. -/
def formatReal (d : Directive) (width : Nat) (precision? : Option Nat) (x : Float) :
    List UInt8 :=
  let text := (Decimal.fixed (precision?.getD 6) x).toList
  let negative := text.head? = some '-'
  let digits := (if negative then text.drop 1 else text).map Char.toLower
  padNumber d.flags width (digits.all fun c => c.isDigit || c = '.') (signOf d.flags negative)
    digits

/-- What writing a format yields. -/
structure Written where
  /-- The bytes. -/
  bytes : List UInt8
  /-- The arguments that are left. -/
  left : List String
  /-- Whether all arguments have been of their kind. -/
  valid : Bool
  /-- Whether all output has been ended. -/
  stopped : Bool

/-- The value of a measure, and the arguments that are left. -/
def measure : Option Measure → List String → Option Int × List String
  | none, arguments => (none, arguments)
  | some (.given n), arguments => (some n, arguments)
  | some .argument, arguments =>
    (some (integer (arguments.head?.getD "")).1, arguments.tail)

/-- A directive that is filled with the first arguments. -/
def Directive.fill (d : Directive) (arguments : List String) : Written :=
  let (width?, afterWidth) := measure d.width? arguments
  let (given?, afterMeasures) := measure d.precision? afterWidth
  let width := (width?.getD 0).natAbs
  let precision? := given?.bind fun n => if n < 0 then none else some n.toNat
  let shape :=
    if (width?.getD 0) < 0 then { d with flags := '-' :: d.flags } else d
  let left := shape.flags.contains '-'
  let text := afterMeasures.head?.getD ""
  let rest := afterMeasures.tail
  let cut (bytes : List UInt8) : List UInt8 := bytes.take (precision?.getD bytes.length)
  match d.conversion with
  | '%' => ⟨[37], afterMeasures, true, false⟩
  | 's' => ⟨pad left width (cut (Text.encode text)), rest, true, false⟩
  | 'c' => ⟨pad left width ((Text.encode text ++ [0]).take 1), rest, true, false⟩
  | 'b' =>
    let (bytes, stopped) := unescape text
    ⟨pad left width (cut bytes), rest, true, stopped⟩
  | 'f' | 'F' =>
    let (x, valid) := real text
    ⟨formatReal shape width precision? x, rest, valid, false⟩
  | _ =>
    let (n, valid) := integer text
    ⟨formatInteger shape width precision? n, rest, valid, false⟩

/-- The bytes of some pieces that are filled with the first arguments. -/
def fill : List Piece → List String → Written
  | [], arguments => ⟨[], arguments, true, false⟩
  | .byte b :: rest, arguments =>
    let later := fill rest arguments
    { later with bytes := b :: later.bytes }
  | .directive d :: rest, arguments =>
    let here := d.fill arguments
    if here.stopped then here
    else
      let later := fill rest here.left
      { later with bytes := here.bytes ++ later.bytes, valid := here.valid && later.valid }

/-- The bytes of some pieces that are filled again as long as arguments are left, and whether all
arguments have been of their kind.  The first argument bounds the number of repetitions. -/
def fillAll : Nat → List Piece → List String → List UInt8 × Bool
  | 0, _, _ => ([], true)
  | fuel + 1, pieces, arguments =>
    let here := fill pieces arguments
    if here.stopped || here.left.isEmpty || here.left.length = arguments.length then
      (here.bytes, here.valid)
    else
      let (later, valid) := fillAll fuel pieces here.left
      (here.bytes ++ later, here.valid && valid)

/-- The bytes of a format with its arguments, and the status of writing them. -/
def write (text : String) (arguments : List String) : List UInt8 × Nat :=
  let (pieces, complete) := read text
  let (bytes, valid) := fillAll (arguments.length + 1) pieces arguments
  (bytes, if !complete then 2 else if valid then 0 else 1)

end Format

/-! ### Plain output -/

/-- The bytes of texts in a line, with their escapes.  The ending is left out when the first one
asks for it. -/
def echo (words : List String) : List UInt8 :=
  let continues := words.head? = some "-n"
  let (bytes, stopped) := unescape (" ".intercalate (if continues then words.tail else words))
  if stopped || continues then bytes else bytes ++ [10]

end RankedRetrieval.Script

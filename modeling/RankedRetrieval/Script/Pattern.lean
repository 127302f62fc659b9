import RankedRetrieval.Script.Arithmetic

/-!
# Patterns of scripts

## Main Definitions

* `Script.Pattern` — a pattern
* `Script.Pattern.ofMarked` — the pattern that characters denote
* `Script.Pattern.accepts` — whether a text is of the form that a pattern describes
* `Script.expandSets` — characters with ranges and classes written out

## Design Notes

A character that stands in quotes stands for itself, so each character comes with whether it is
quoted.
-/

namespace RankedRetrieval.Script

/-- A character, and whether it stands in quotes. -/
abbrev Marked := Char × Bool

/-- The text of some characters. -/
def Marked.text (cs : List Marked) : String := String.ofList (cs.map Prod.fst)

/-- A piece of a pattern. -/
inductive PatternPiece where
  /-- A character. -/
  | char (c : Char)
  /-- Any character. -/
  | any
  /-- Any text. -/
  | many
  /-- One of the characters in some ranges, or one of all others. -/
  | oneOf (wanted : Bool) (ranges : List (Char × Char))
  deriving DecidableEq

/-- A pattern. -/
abbrev Pattern := List PatternPiece

/-- The ranges of the characters of a class. -/
def classRanges (name : String) : List (Char × Char) :=
  match name with
  | "digit" => [('0', '9')]
  | "lower" => [('a', 'z')]
  | "upper" => [('A', 'Z')]
  | "alpha" => [('A', 'Z'), ('a', 'z')]
  | "alnum" => [('0', '9'), ('A', 'Z'), ('a', 'z')]
  | "xdigit" => [('0', '9'), ('A', 'F'), ('a', 'f')]
  | "blank" => [('\t', '\t'), (' ', ' ')]
  | "space" => [('\t', '\r'), (' ', ' ')]
  | "punct" => [('!', '/'), (':', '@'), ('[', Char.ofNat 96), (Char.ofNat 123, '~')]
  | "cntrl" => [('\x00', '\x1f'), ('\x7f', '\x7f')]
  | "print" => [(' ', '~')]
  | "graph" => [('!', '~')]
  | _ => []

/-- The name of the class at the front of a text that follows a bracket and a colon, and what
follows the class. -/
def readClass? (cs : List Char) : Option (String × List Char) :=
  match cs.dropWhile Char.isAlpha with
  | ':' :: ']' :: rest => some (String.ofList (cs.takeWhile Char.isAlpha), rest)
  | _ => none

namespace Pattern

/-- The ranges up to the bracket that closes them, and what follows it.  The first argument bounds
the number of steps; a bracket right at the start closes nothing. -/
def readRanges? : Nat → Bool → List Marked → Option (List (Char × Char) × List Marked)
  | 0, _, _ => none
  | _ + 1, _, [] => none
  | fuel + 1, first, (c, quoted) :: rest =>
    let go (ranges : List (Char × Char)) (after : List Marked) :=
      (readRanges? fuel false after).map fun (others, left) => (ranges ++ others, left)
    if c = ']' && !quoted && !first then some ([], rest)
    else
      let class? :=
        if c = '[' && !quoted && (rest.head?.map Prod.fst) = some ':' then
          readClass? (rest.tail.map Prod.fst)
        else none
      match class?, rest with
      | some (name, after), _ => go (classRanges name) (rest.drop (rest.length - after.length))
      | none, ('-', false) :: (d, q) :: after =>
        if d = ']' && !q then go [(c, c)] rest else go [(c, d)] after
      | none, _ => go [(c, c)] rest

/-- The pattern that characters denote.  The first argument bounds the number of steps. -/
def pieces : Nat → List Marked → Pattern
  | 0, _ => []
  | _ + 1, [] => []
  | fuel + 1, (c, true) :: rest => .char c :: pieces fuel rest
  | fuel + 1, (c, false) :: rest =>
    if c = '*' then .many :: pieces fuel rest
    else if c = '?' then .any :: pieces fuel rest
    else if c = '[' then
      let (wanted, inner) :=
        match rest with
        | ('!', false) :: after => (false, after)
        | _ => (true, rest)
      match readRanges? (inner.length + 1) true inner with
      | some (ranges, after) => .oneOf wanted ranges :: pieces fuel after
      | none => .char c :: pieces fuel rest
    else if c = '\\' then
      match rest with
      | (d, _) :: after => .char d :: pieces fuel after
      | [] => [.char c]
    else .char c :: pieces fuel rest

/-- The pattern that characters denote. -/
def ofMarked (cs : List Marked) : Pattern :=
  pieces (cs.length + 1) cs

/-- Whether a character is of the form that a piece describes. -/
def acceptsChar (piece : PatternPiece) (c : Char) : Bool :=
  match piece with
  | .char d => c = d
  | .any | .many => true
  | .oneOf wanted ranges => (ranges.any fun r => r.1 ≤ c && c ≤ r.2) = wanted

/-- Whether a text is of the form that a pattern describes. -/
def accepts : Pattern → List Char → Bool
  | [], cs => cs.isEmpty
  | .many :: rest, [] => accepts rest []
  | .many :: rest, c :: cs => accepts rest (c :: cs) || accepts (.many :: rest) cs
  | _ :: _, [] => false
  | piece :: rest, c :: cs => acceptsChar piece c && accepts rest cs
termination_by pattern cs => (pattern.length, cs.length)

/-- Whether characters denote anything but themselves. -/
def isOpen (cs : List Marked) : Bool :=
  cs.any fun (c, quoted) => !quoted && (c = '*' || c = '?' || c = '[')

/-! ### Parts of texts -/

/-- The text without the first part, in a list of parts and remainders, that a pattern
describes. -/
def dropPart (pattern : Pattern) (cs : List Char) (parts : List (List Char × List Char)) :
    List Char :=
  ((parts.find? fun (part, _) => pattern.accepts part).map Prod.snd).getD cs

/-- The two sides of a text at every place, from the left. -/
def sides (cs : List Char) : List (List Char × List Char) :=
  (List.range (cs.length + 1)).map fun n => (cs.take n, cs.drop n)

/-- The text that is left of another one when a modifier takes a part of the form of a pattern
away. -/
def trim (modifier : String) (pattern : Pattern) (cs : List Char) : List Char :=
  match modifier with
  | "#" => dropPart pattern cs (sides cs)
  | "##" => dropPart pattern cs (sides cs).reverse
  | "%" => dropPart pattern cs ((sides cs).map Prod.swap).reverse
  | "%%" => dropPart pattern cs ((sides cs).map Prod.swap)
  | _ => cs

end Pattern

/-! ### Sets of characters -/

/-- The characters between two others. -/
def charsBetween (c d : Char) : List Char :=
  (List.range (d.toNat + 1 - c.toNat)).map fun n => Char.ofNat (c.toNat + n)

/-- Characters with ranges, classes and escapes written out.  The first argument bounds the number
of steps. -/
def expandSets : Nat → List Marked → List Char
  | 0, _ => []
  | _ + 1, [] => []
  | fuel + 1, (c, quoted) :: rest =>
    let class? :=
      if c = '[' && !quoted && (rest.head?.map Prod.fst) = some ':' then
        readClass? (rest.tail.map Prod.fst)
      else none
    match class?, rest with
    | some (name, after), _ =>
      (classRanges name).flatMap (fun r => charsBetween r.1 r.2) ++
        expandSets fuel (rest.drop (rest.length - after.length))
    | none, ('-', false) :: (d, _) :: after => charsBetween c d ++ expandSets fuel after
    | none, _ => c :: expandSets fuel rest

end RankedRetrieval.Script

/-!
# Blanks

White space as it separates the columns of a line and surrounds a text.

## Main Definitions

* `Text.isBlank` — the property `White_Space`
* `Text.trim` — a text without the blanks around it
* `Text.columns` — the parts of a text between blanks
* `Text.splitOnce?` — the two sides of the first separator
-/

namespace RankedRetrieval.Text

/-- Whether a character is white space. -/
def isBlank (c : Char) : Bool :=
  let code := c.toNat
  code = 0x20 || (0x09 ≤ code && code ≤ 0x0D) || code = 0x85 || code = 0xA0 || code = 0x1680
    || (0x2000 ≤ code && code ≤ 0x200A) || code = 0x2028 || code = 0x2029 || code = 0x202F
    || code = 0x205F || code = 0x3000

/-- A text without the blanks at its start. -/
def dropBlanks (cs : List Char) : List Char :=
  cs.dropWhile isBlank

/-- A text without the blanks around it. -/
def trimChars (cs : List Char) : List Char :=
  (dropBlanks (dropBlanks cs).reverse).reverse

/-- A text without the blanks around it. -/
def trim (text : String) : String :=
  String.ofList (trimChars text.toList)

/-- Whether a text holds nothing but blanks. -/
def isBlankText (text : String) : Bool :=
  text.toList.all isBlank

/-- The maximal parts without separators, read after the characters of a part that has begun,
the last one first. -/
def partsAfter (isSeparator : Char → Bool) (part : List Char) : List Char → List (List Char)
  | [] => if part.isEmpty then [] else [part.reverse]
  | c :: rest =>
    if isSeparator c then
      if part.isEmpty then partsAfter isSeparator [] rest
      else part.reverse :: partsAfter isSeparator [] rest
    else partsAfter isSeparator (c :: part) rest

/-- The columns of a text: its maximal parts without blanks. -/
def columns (text : String) : List String :=
  (partsAfter isBlank [] text.toList).map String.ofList

/-- The two sides of the first separator, if there is one. -/
def splitOnceChars? (separator : Char) : List Char → Option (List Char × List Char)
  | [] => none
  | c :: rest =>
    if c = separator then some ([], rest)
    else (splitOnceChars? separator rest).map fun sides => (c :: sides.1, sides.2)

/-- The two sides of the first separator, if there is one. -/
def splitOnce? (separator : Char) (text : String) : Option (String × String) :=
  (splitOnceChars? separator text.toList).map fun sides =>
    (String.ofList sides.1, String.ofList sides.2)

/-- All parts between separators; one more than there are separators. -/
def splitAll (separator : Char) : List Char → List (List Char)
  | [] => [[]]
  | c :: rest =>
    if c = separator then [] :: splitAll separator rest
    else
      match splitAll separator rest with
      | [] => [[c]]
      | part :: parts => (c :: part) :: parts

/-- What follows the first occurrence of a pattern, if there is one. -/
def after? (pattern : List Char) : List Char → Option (List Char)
  | [] => if pattern.isEmpty then some [] else none
  | c :: rest =>
    if pattern.isPrefixOf (c :: rest) then some ((c :: rest).drop pattern.length)
    else after? pattern rest

/-- Whether a pattern occurs in a text. -/
def contains (pattern text : String) : Bool :=
  (after? pattern.toList text.toList).isSome

end RankedRetrieval.Text

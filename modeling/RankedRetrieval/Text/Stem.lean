/-!
# Stems

The Porter2 stemmer for English: the inflected forms of a word are mapped to one stem.

## Main Definitions

* `Stem.Regions` — where the two regions of a word begin
* `Stem.SuffixRule` — what becomes of a word with a suffix
* `Stem.stem` — the stem of a word

## Design Notes

A step is a list of suffix rules, longer suffixes before shorter ones.  The first rule whose
suffix the word has is the only one that is tried; when its condition fails, the step leaves
the word alone.  A `y` that stands for a consonant is written `Y` while the steps run.
-/

namespace RankedRetrieval.Stem

/-! ### Letters and regions -/

/-- Whether a letter is a vowel; `y` is one and `Y` is not. -/
def isVowel (c : Char) : Bool :=
  "aeiouy".toList.contains c

/-- What follows the first character with a property. -/
def pastFirst? (property : Char → Bool) : List Char → Option (List Char)
  | [] => none
  | c :: rest => if property c then some rest else pastFirst? property rest

/-- What follows the first consonant that comes after a vowel. -/
def pastVowelConsonant? (cs : List Char) : Option (List Char) :=
  (pastFirst? isVowel cs).bind (pastFirst? fun c => !isVowel c)

/-- The two regions of a word: the positions where they begin, which are the end of the word
when they are empty. -/
structure Regions where
  /-- Where the first region begins. -/
  first : Nat
  /-- Where the second region begins. -/
  second : Nat

/-- Beginnings of words after which the first region begins in any case. -/
def regionOpeners : List (List Char) :=
  ["gener".toList, "commun".toList, "arsen".toList]

/-- What follows the part of a word before its first region. -/
def firstRegion? (word : List Char) : Option (List Char) :=
  match regionOpeners.find? fun opener => opener.isPrefixOf word with
  | some opener => some (word.drop opener.length)
  | none => pastVowelConsonant? word

/-- The regions of a word. -/
def regions (word : List Char) : Regions :=
  match firstRegion? word with
  | none => ⟨word.length, word.length⟩
  | some rest =>
    { first := word.length - rest.length
      second :=
        match pastVowelConsonant? rest with
        | none => word.length
        | some further => word.length - further.length }

/-- Whether a part of a word ends with a short syllable. -/
def endsShort (part : List Char) : Bool :=
  match part.reverse with
  | [c, v] => !isVowel c && isVowel v
  | c :: v :: before :: _ =>
    !isVowel c && !"wxY".toList.contains c && isVowel v && !isVowel before
  | _ => false

/-! ### Suffix rules -/

/-- What becomes of a word with a suffix. -/
structure SuffixRule where
  /-- The suffix. -/
  suffix : String
  /-- The new word, made from the part before the suffix; `none` leaves the word alone. -/
  newWord : List Char → Option (List Char)

/-- The part of a word before a suffix, if the word has the suffix. -/
def dropSuffix? (suffix word : List Char) : Option (List Char) :=
  if suffix.isSuffixOf word then some (word.take (word.length - suffix.length)) else none

/-- Applies the first rule whose suffix the word has. -/
def applyRules : List SuffixRule → List Char → List Char
  | [], word => word
  | rule :: rules, word =>
    match dropSuffix? rule.suffix.toList word with
    | some part => (rule.newWord part).getD word
    | none => applyRules rules word

/-- Replaces a suffix when the part before it satisfies a condition. -/
def replaceWhen (condition : List Char → Bool) (replacement suffix : String) : SuffixRule where
  suffix := suffix
  newWord part := if condition part then some (part ++ replacement.toList) else none

/-- Leaves a word with a suffix alone. -/
def keep (suffix : String) : SuffixRule where
  suffix := suffix
  newWord _ := none

/-- Whether a part of a word ends with one of some letters. -/
def endsWithOneOf (letters : String) (part : List Char) : Bool :=
  (part.getLast?.map letters.toList.contains).getD false

/-! ### The steps -/

/-- Takes the possessive endings away. -/
def dropPossessive (word : List Char) : List Char :=
  applyRules (["'s'", "'s", "'"].map (replaceWhen (fun _ => true) "")) word

/-- Takes the plural endings away. -/
def dropPlural (word : List Char) : List Char :=
  let shorten (suffix : String) : SuffixRule :=
    ⟨suffix, fun part => some (part ++ (if 2 ≤ part.length then "i" else "ie").toList)⟩
  applyRules
    [replaceWhen (fun _ => true) "ss" "sses", shorten "ied", shorten "ies", keep "us", keep "ss",
      replaceWhen (fun part => part.dropLast.any isVowel) "" "s"] word

/-- Mends a word that has lost a verbal ending. -/
def mendVerb (start : Nat) (part : List Char) : List Char :=
  let double (letter : Char) : SuffixRule :=
    ⟨String.ofList [letter, letter], fun before => some (before ++ [letter])⟩
  let addE (ending : String) : SuffixRule := replaceWhen (fun _ => true) (ending ++ "e") ending
  applyRules
    (["at", "bl", "iz"].map addE ++ "bdfgmnprt".toList.map double
      ++ [⟨"", fun whole =>
            if whole.length = start && endsShort whole then some (whole ++ ['e']) else none⟩])
    part

/-- Takes the verbal endings away. -/
def dropVerbal (r : Regions) (word : List Char) : List Char :=
  let past (suffix : String) : SuffixRule :=
    replaceWhen (fun part => r.first ≤ part.length) "ee" suffix
  let verbal (suffix : String) : SuffixRule :=
    ⟨suffix, fun part => if part.any isVowel then some (mendVerb r.first part) else none⟩
  applyRules [past "eedly", verbal "ingly", verbal "edly", past "eed", verbal "ing", verbal "ed"]
    word

/-- Writes a final `y` after a consonant as `i`, except in words of two letters. -/
def replaceFinalY (word : List Char) : List Char :=
  match word.reverse with
  | y :: before :: first :: rest =>
    if (y = 'y' ∨ y = 'Y') ∧ !isVowel before then ('i' :: before :: first :: rest).reverse
    else word
  | _ => word

/-- Shortens double suffixes in the first region. -/
def shortenDouble (r : Regions) (word : List Char) : List Char :=
  let into (replacement : String) (suffix : String) : SuffixRule :=
    replaceWhen (fun part => r.first ≤ part.length) replacement suffix
  applyRules
    [into "ate" "ational", into "ful" "fulness", into "ous" "ousness", into "ive" "iveness",
      into "ize" "ization", into "tion" "tional", into "ble" "biliti", into "less" "lessli",
      into "ent" "entli", into "ate" "ation", into "al" "alism", into "al" "aliti",
      into "ous" "ousli", into "ive" "iviti", into "ful" "fulli",
      into "ence" "enci", into "ance" "anci", into "able" "abli", into "ize" "izer",
      into "ate" "ator", into "al" "alli", into "ble" "bli",
      replaceWhen (fun part => r.first ≤ part.length && endsWithOneOf "l" part) "og" "ogi",
      replaceWhen (fun part => r.first ≤ part.length && endsWithOneOf "cdeghkmnrt" part) "" "li"]
    word

/-- Shortens the suffixes of adjectives and nouns in the first region. -/
def shortenDerived (r : Regions) (word : List Char) : List Char :=
  let into (replacement : String) (suffix : String) : SuffixRule :=
    replaceWhen (fun part => r.first ≤ part.length) replacement suffix
  applyRules
    [into "ate" "ational", into "tion" "tional", into "al" "alize", into "ic" "icate",
      into "ic" "iciti",
      replaceWhen (fun part => r.first ≤ part.length && r.second ≤ part.length) "" "ative",
      into "ic" "ical", into "" "ness", into "" "ful"]
    word

/-- Takes the remaining suffixes in the second region away. -/
def dropDerived (r : Regions) (word : List Char) : List Char :=
  let away (suffix : String) : SuffixRule :=
    replaceWhen (fun part => r.second ≤ part.length) "" suffix
  applyRules
    (["ement", "ance", "ence", "able", "ible", "ment", "ant", "ent", "ism", "ate", "iti", "ous",
        "ive", "ize"].map away
      ++ [replaceWhen (fun part => r.second ≤ part.length && endsWithOneOf "st" part) "" "ion"]
      ++ ["al", "er", "ic"].map away)
    word

/-- Takes a final `e` or one of two final `l` away. -/
def dropFinal (r : Regions) (word : List Char) : List Char :=
  applyRules
    [replaceWhen
        (fun part =>
          r.second ≤ part.length || (r.first ≤ part.length && !endsShort part)) "" "e",
      replaceWhen (fun part => r.second ≤ part.length && endsWithOneOf "l" part) "" "l"]
    word

/-! ### The stemmer -/

/-- Marks a `y` after a vowel as a consonant; the character before the text is given. -/
def markAfter (before : Char) : List Char → List Char
  | [] => []
  | c :: rest =>
    let marked := if c = 'y' && isVowel before then 'Y' else c
    marked :: markAfter marked rest

/-- Drops an apostrophe in front and marks every `y` that stands for a consonant. -/
def markConsonants (word : List Char) : List Char :=
  match word with
  | [] => []
  | c :: rest =>
    match (if c = '\x27' then rest else c :: rest) with
    | [] => []
    | first :: others =>
      let marked := if first = 'y' then 'Y' else first
      marked :: markAfter marked others

/-- Writes the marked consonants as `y` again. -/
def unmark (word : List Char) : List Char :=
  word.map fun c => if c = 'Y' then 'y' else c

/-- Words with a stem of their own. -/
def irregularStem? : String → Option String
  | "skis" => some "ski"
  | "skies" => some "sky"
  | "dying" => some "die"
  | "lying" => some "lie"
  | "tying" => some "tie"
  | "idly" => some "idl"
  | "gently" => some "gentl"
  | "ugly" => some "ugli"
  | "early" => some "earli"
  | "only" => some "onli"
  | "singly" => some "singl"
  | "sky" => some "sky"
  | "news" => some "news"
  | "howe" => some "howe"
  | "atlas" => some "atlas"
  | "cosmos" => some "cosmos"
  | "bias" => some "bias"
  | "andes" => some "andes"
  | _ => none

/-- Words that are stems once their plural ending is gone. -/
def finalWords : List String :=
  ["inning", "outing", "canning", "herring", "earring", "proceed", "exceed", "succeed"]

/-- The steps after the plural endings. -/
def dropSuffixes (r : Regions) (word : List Char) : List Char :=
  dropFinal r (dropDerived r (shortenDerived r (shortenDouble r
    (replaceFinalY (dropVerbal r word)))))

/-- The stem of a word in lower case.  Words of one or two characters are their own stems. -/
def stem (word : String) : String :=
  match irregularStem? word with
  | some irregular => irregular
  | none =>
    if word.length < 3 then word
    else
      let marked := markConsonants word.toList
      let singular := dropPlural (dropPossessive marked)
      if finalWords.contains (String.ofList singular) then String.ofList (unmark singular)
      else String.ofList (unmark (dropSuffixes (regions marked) singular))

end RankedRetrieval.Stem

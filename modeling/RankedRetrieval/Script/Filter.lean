import RankedRetrieval.Script.Format
import RankedRetrieval.Script.Pattern
import RankedRetrieval.Script.ToolCall

/-!
# Filters

The tools of scripts that make a text of a text.

## Main Definitions

* `Script.Filter.run?` — what a filter yields, by its name
-/

namespace RankedRetrieval.Script.Filter

open ToolCall

/-- The number that a text of digits denotes. -/
def count? (text : String) : Option Nat :=
  let (n, rest) := readBase 10 0 text.toList
  if text.isEmpty || !rest.isEmpty then none else some n

/-! ### Parts of a text -/

/-- The arguments in which a number behind a hyphen has become the value of an option, unless it
is the value of the option in front of it. -/
def spellCounts : List String → List String
  | [] => []
  | "-n" :: value :: rest => "-n" :: value :: spellCounts rest
  | "-c" :: value :: rest => "-c" :: value :: spellCounts rest
  | argument :: rest =>
    let spelled :=
      match argument.toList with
      | '-' :: c :: cs => if c.isDigit then String.ofList ('-' :: 'n' :: c :: cs) else argument
      | _ => argument
    spelled :: spellCounts rest

/-- The options of a tool that yields a part of a text: whether bytes are counted, the sign in
front of the number, and the number. -/
def readCount? (options : List ToolOption) : Option (Bool × Option Char × Nat) :=
  match options.getLast? with
  | none => some (false, none, 10)
  | some (c, value) =>
    match value.toList with
    | sign :: rest =>
      if sign = '+' || sign = '-' then
        (count? (String.ofList rest)).map fun n => (c = 'c', some sign, n)
      else (count? value).map fun n => (c = 'c', none, n)
    | [] => none

/-- The beginning of a list; a number behind a hyphen says how much is left out at the end. -/
def beginning {β : Type} (sign? : Option Char) (n : Nat) (xs : List β) : List β :=
  if sign? = some '-' then xs.take (xs.length - n) else xs.take n

/-- The end of a list; a number behind a plus sign says where it begins. -/
def ending {β : Type} (sign? : Option Char) (n : Nat) (xs : List β) : List β :=
  if sign? = some '+' then xs.drop (n - 1) else xs.drop (xs.length - n)

/-- Some files one after the other, each under its name if there are several. -/
def titled (t : ToolCall) (paths : List String) (make : List UInt8 → List UInt8) : List UInt8 :=
  let shown := t.sources paths
  if paths.length ≤ 1 then shown.flatMap fun source => make source.2
  else
    (shown.zipIdx).flatMap fun ((path, bytes), n) =>
      Text.encode ((if n = 0 then "" else "\n") ++ "==> " ++ path ++ " <==\n") ++ make bytes

/-- A tool that yields a part of each file.  `stops` says whether it reads no more of its input
than it yields. -/
def partOf (stops : Bool) (cut : {β : Type} → Option Char → Nat → List β → List β)
    (t : ToolCall) : Outcome :=
  let spelled := { t with arguments := spellCounts t.arguments }
  match spelled.options? "q" "nc" with
  | none => t.ends 1
  | some (options, paths) =>
    match readCount? (options.filter fun option => option.1 ≠ 'q') with
    | none => t.ends 1
    | some (bytewise, sign?, n) =>
      let make (bytes : List UInt8) : List UInt8 :=
        if bytewise then cut sign? n bytes else (cut sign? n (endedRows bytes)).flatten
      let result := { t.filters 1 paths id with output := titled t paths make }
      if stops && readsInput paths then { result with consumed := (make t.input).length }
      else result

/-! ### Counting -/

/-- The number of lines, words and bytes of a text. -/
def sizes (bytes : List UInt8) : List Nat :=
  let isGap (b : UInt8) : Bool := b = 32 || (9 ≤ b && b ≤ 13)
  let words := (bytes.foldl (fun (n, inside) b =>
    if isGap b then (n, false) else if inside then (n, true) else (n + 1, true)) (0, false)).1
  [bytes.count 10, words, bytes.length]

/-- A number behind blanks up to a width. -/
def padCount (width n : Nat) : List UInt8 :=
  let digits := Text.encode (Nat.repr n)
  List.replicate (width - digits.length) 32 ++ digits

/-- A line of numbers in columns of a width, and a name. -/
def countLine (width : Nat) (numbers : List Nat) (name : String) : List UInt8 :=
  let columns := numbers.map (padCount width) ++ if name = "" then [] else [Text.encode name]
  [32].intercalate columns ++ [10]

/-- Counts lines, words and bytes. -/
def countWords (t : ToolCall) : Outcome :=
  match t.options? "lwcm" "" with
  | none => t.ends 1
  | some (options, paths) =>
    let wanted := [has options 'l', has options 'w', has options 'c' || has options 'm']
    let select (numbers : List Nat) : List Nat :=
      if options.isEmpty then numbers
      else ((numbers.zip wanted).filter Prod.snd).map Prod.fst
    let measured := (t.sources paths).map fun (path, bytes) =>
      (if paths.isEmpty then "" else path, sizes bytes)
    let total := measured.foldl (fun sums entry => sums.zipWith (· + ·) entry.2) [0, 0, 0]
    let counted :=
      if paths.length ≤ 1 then measured else measured ++ [("total", total)]
    let width :=
      if (select total).length = 1 && paths.length ≤ 1 then 1
      else if readsInput paths then 7
      else (Nat.repr (total.getLast?.getD 0)).length
    let lines := counted.map fun (name, numbers) => countLine width (select numbers) name
    { t.filters 1 paths id with output := lines.flatten }

/-! ### Order -/

/-- Whether a byte is a blank. -/
def isGap (b : UInt8) : Bool := b = 32 || b = 9

/-- The number at the front of a row, in units of the last place that counts. -/
def numericKey (row : List UInt8) : Int :=
  let isDigit (b : UInt8) : Bool := 48 ≤ b && b ≤ 57
  let add (n : Nat) (b : UInt8) : Nat := 10 * n + (b.toNat - 48)
  let text := row.dropWhile isGap
  let negative := text.head? = some 45
  let unsigned := if negative then text.drop 1 else text
  let behind := unsigned.dropWhile isDigit
  let places :=
    if behind.head? = some 46 then ((behind.drop 1).takeWhile isDigit).take 18 else []
  let n : Nat := (places ++ List.replicate (18 - places.length) 48).foldl add
    ((unsigned.takeWhile isDigit).foldl add 0)
  if negative then -(n : Int) else n

/-- A part of a row that decides its place. -/
structure SortKey where
  /-- The number of its first column. -/
  first : Nat
  /-- The number of its last column. -/
  last? : Option Nat
  /-- How it is compared. -/
  flags : List Char

/-- The key that a text describes. -/
def sortKey? (text : String) : Option SortKey := do
  let (n, rest) := readBase 10 0 text.toList
  let flags := rest.takeWhile Char.isAlpha
  if n = 0 then none
  else
    match rest.dropWhile Char.isAlpha with
    | [] => some ⟨n, none, flags⟩
    | ',' :: after =>
      let (m, others) := readBase 10 0 after
      if others.all Char.isAlpha then some ⟨n, some m, flags ++ others⟩ else none
    | _ => none

/-- The columns of a row; without a separator each begins with the blanks in front of it. -/
def columns (separator? : Option UInt8) (row : List UInt8) : List (List UInt8) :=
  let begins (previous b : UInt8) : Bool :=
    match separator? with
    | some separator => previous = separator
    | none => isGap b && !isGap previous
  row.splitBy fun previous b => !begins previous b

/-- The part of a row that a key describes. -/
def SortKey.part (separator? : Option UInt8) (key : SortKey) (row : List UInt8) : List UInt8 :=
  let behind := (columns separator? row).drop (key.first - 1)
  let taken :=
    match key.last? with
    | some last => behind.take (last + 1 - key.first)
    | none => behind
  let part := taken.flatten
  match separator?, key.last? with
  | some separator, some _ =>
    if part.getLast? = some separator then part.dropLast else part
  | _, _ => if key.flags.contains 'b' then part.dropWhile isGap else part

/-- The order of two parts of rows. -/
def compareParts (flags : List Char) (a b : List UInt8) : Ordering :=
  let order :=
    if flags.contains 'n' || flags.contains 'g' then compare (numericKey a) (numericKey b)
    else if flags.contains 'f' then
      let fold (row : List UInt8) : List UInt8 :=
        row.map fun byte => if 97 ≤ byte && byte ≤ 122 then byte - 32 else byte
      compare (fold a) (fold b)
    else compare a b
  if flags.contains 'r' then order.swap else order

/-- Sorts rows. -/
def sort (t : ToolCall) : Outcome :=
  match t.options? "nrufgbsdc" "kto" with
  | none => t.ends 2
  | some (options, paths) =>
    let flags := (options.filter fun option => option.2 = "").map Prod.fst
    let keys? := ((options.filter fun option => option.1 = 'k').map Prod.snd).mapM sortKey?
    match keys? with
    | none => t.ends 2
    | some keys =>
      if t.lacks paths then t.ends 2
      else
        let separator? := (valueOf? options 't').bind fun text => (Text.encode text).head?
        let compareKeys (a b : List UInt8) : Ordering :=
          if keys.isEmpty then compareParts flags a b
          else
            keys.foldl (fun order key =>
              order.then (compareParts (if key.flags.isEmpty then flags else key.flags)
                (key.part separator? a) (key.part separator? b))) .eq
        let last (a b : List UInt8) : Ordering :=
          if has options 'u' || has options 's' then .eq
          else if flags.contains 'r' then compare b a else compare a b
        let given := (t.sources paths).flatMap fun source => rows source.2
        let sorted := given.mergeSort fun a b => ((compareKeys a b).then (last a b)).isLE
        let distinct :=
          if has options 'u' then
            (sorted.splitBy fun a b => compareKeys a b = .eq).filterMap List.head?
          else sorted
        let result : Outcome := ⟨0, unrows distinct, t.store, t.consumption paths⟩
        match valueOf? options 'o' with
        | none => if has options 'c' then t.ends (if sorted = given then 0 else 1) else result
        | some path => result.into 2 path

/-- Leaves out rows that are equal to the row in front of them. -/
def distinct (t : ToolCall) : Outcome :=
  match t.options? "cdu" "" with
  | none => t.ends 1
  | some (options, paths) =>
    let result := t.filters 1 (paths.take 1) fun bytes =>
      let groups := (rows bytes).splitBy fun a b => a = b
      let kept := groups.filter fun group =>
        (!has options 'd' || 1 < group.length) && (!has options 'u' || group.length = 1)
      kept.flatMap fun group =>
        let row := (group.head?.getD []) ++ [10]
        if has options 'c' then padCount 7 group.length ++ 32 :: row else row
    match paths with
    | [_, target] => if result.status = 0 then result.into 1 target else result
    | _ => if 2 < paths.length then t.ends 1 else result

/-! ### Characters -/

/-- The characters of a set; what follows a backslash is no sign.  The first argument bounds the
number of steps. -/
def markSet : Nat → List Char → List Marked
  | 0, _ => []
  | _ + 1, [] => []
  | fuel + 1, '\\' :: d :: rest =>
    match readEscape true (d :: rest) with
    | (.byte b, after) =>
      if b = 92 && d ≠ '\\' then (d, true) :: markSet fuel rest
      else (Char.ofNat b.toNat, true) :: markSet fuel after
    | (.stop, after) => markSet fuel after
  | fuel + 1, c :: rest => (c, false) :: markSet fuel rest

/-- The characters of a set. -/
def readSet (text : String) : List Char :=
  let marked := markSet (text.length + 1) text.toList
  expandSets (marked.length + 1) marked

/-- A character of one set for one of another set. -/
def exchange (source target : List Char) (c : Char) : Char :=
  match source.reverse.findIdx? (· = c) with
  | none => c
  | some n => (target[source.length - 1 - n]?).getD (target.getLast?.getD c)

/-- A text in which a character of a set never follows itself. -/
def squeeze (set : Char → Bool) : Option Char → List Char → List Char
  | _, [] => []
  | previous?, c :: rest =>
    if set c && previous? = some c then squeeze set previous? rest
    else c :: squeeze set (some c) rest

/-- Exchanges or leaves out characters. -/
def exchangeAll (t : ToolCall) : Outcome :=
  match t.options? "dscC" "" with
  | none => t.ends 1
  | some (options, sets) =>
    let complement := has options 'c' || has options 'C'
    let inFirst (c : Char) : Bool := ((readSet (sets.head?.getD "")).contains c) ≠ complement
    let second := (sets[1]?).map readSet
    let deleted (cs : List Char) : List Char :=
      if has options 'd' then cs.filter fun c => !inFirst c
      else
        match second with
        | none => cs
        | some target =>
          if complement then cs.map fun c => if inFirst c then target.getLast?.getD c else c
          else cs.map (exchange (readSet (sets.head?.getD "")) target)
    let squeezed (cs : List Char) : List Char :=
      if !has options 's' then cs
      else
        match second with
        | some target => squeeze target.contains none cs
        | none => squeeze inFirst none cs
    let most := if has options 'd' && !has options 's' then 1 else 2
    let least := if has options 'd' || has options 's' then 1 else 2
    if sets.length < least || most < sets.length then t.ends 1
    else
      t.filters 1 [] fun bytes =>
        (squeezed (deleted (bytes.map fun b => Char.ofNat b.toNat))).map fun c =>
          UInt8.ofNat c.toNat

/-- The ranges of a list such as `1,3-5,7-`. -/
def ranges? (text : String) : Option (List (Nat × Option Nat)) :=
  (Text.splitAll ',' text.toList).mapM fun part =>
    match Text.splitOnceChars? '-' part with
    | none => (count? (String.ofList part)).map fun n => (n, some n)
    | some (first, last) =>
      let low := if first.isEmpty then some 1 else count? (String.ofList first)
      let high := if last.isEmpty then some none else (count? (String.ofList last)).map some
      low.bind fun n => high.map fun m => (n, m)

/-- The entries of a list whose numbers are in some ranges. -/
def select {β : Type} (ranges : List (Nat × Option Nat)) (xs : List β) : List β :=
  ((xs.zipIdx 1).filter fun (_, n) =>
    ranges.any fun (low, high?) => low ≤ n && high?.all fun high => n ≤ high).map
      Prod.fst

/-- The columns of a row between separators. -/
def splitRow (separator : UInt8) : List UInt8 → List (List UInt8)
  | [] => [[]]
  | b :: rest =>
    if b = separator then [] :: splitRow separator rest
    else
      match splitRow separator rest with
      | [] => [[b]]
      | part :: parts => (b :: part) :: parts

/-- Keeps some columns of each row. -/
def cut (t : ToolCall) : Outcome :=
  match t.options? "sn" "dfcb" with
  | none => t.ends 1
  | some (options, paths) =>
    let bytewise? := ((valueOf? options 'c').or (valueOf? options 'b')).bind ranges?
    let columns? := (valueOf? options 'f').bind ranges?
    let separator := (((valueOf? options 'd').bind fun text => (Text.encode text).head?)).getD 9
    match bytewise?, columns? with
    | some ranges, none =>
      t.filters 1 paths fun bytes => unrows ((rows bytes).map (select ranges))
    | none, some ranges =>
      t.filters 1 paths fun bytes =>
        let kept := (rows bytes).filter fun row => !has options 's' || row.contains separator
        unrows (kept.map fun row =>
          if row.contains separator then
            [separator].intercalate (select ranges (splitRow separator row))
          else row)
    | _, _ => t.ends 1

/-! ### Filters by name -/

/-- Writes files one after the other. -/
def concatenate (t : ToolCall) : Outcome :=
  match t.options? "un" "" with
  | none => t.ends 1
  | some (options, paths) =>
    let isTarget (path : String) : Bool :=
      match t.store.target path, t.target? with
      | .ok l, some target => l = target && !l.isDevice
      | _, _ => false
    let (refused, others) := paths.partition fun path =>
      isTarget path && ((t.store.read path).toOption.getD []) ≠ []
    let number (bytes : List UInt8) : List UInt8 :=
      if has options 'n' then
        ((endedRows bytes).zipIdx 1).flatMap fun (row, n) => padCount 6 n ++ 9 :: row
      else bytes
    if paths.isEmpty || !others.isEmpty then
      let result := t.filters 1 others number
      { result with status := if refused.isEmpty then result.status else 1 }
    else t.ends 1

/-- The bytes of a text whose characters are taken backwards. -/
def reverseChars (row : List UInt8) : List UInt8 :=
  encodeChars (textOf row).toList.reverse

/-- What a filter yields. -/
def run? (name : String) (t : ToolCall) : Option Outcome :=
  let plain (make : List UInt8 → List UInt8) : Outcome :=
    match t.options? "" "" with
    | none => t.ends 1
    | some (_, paths) => t.filters 1 paths make
  match name with
  | "cat" => some (concatenate t)
  | "head" => some (partOf true beginning t)
  | "tail" => some (partOf false ending t)
  | "wc" => some (countWords t)
  | "sort" => some (sort t)
  | "uniq" => some (distinct t)
  | "tac" => some (plain fun bytes => (endedRows bytes).reverse.flatten)
  | "rev" =>
    some (plain fun bytes =>
      (endedRows bytes).flatMap fun row =>
        reverseChars (row.filter (· ≠ 10)) ++ row.filter (· = 10))
  | "tr" => some (exchangeAll t)
  | "cut" => some (cut t)
  | _ => none

end RankedRetrieval.Script.Filter

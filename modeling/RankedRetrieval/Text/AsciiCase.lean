/-!
# Letter case of ASCII

## Main Definitions

* `Text.lowerAscii` — a text with its ASCII letters in lower case
-/

namespace RankedRetrieval.Text

/-- A text with the letters from `A` to `Z` in lower case. -/
def lowerAscii (text : String) : String :=
  String.ofList (text.toList.map Char.toLower)

end RankedRetrieval.Text

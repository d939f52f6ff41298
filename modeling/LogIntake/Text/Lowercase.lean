import LogIntake.Text.CaseIgnorable
import LogIntake.Text.Cased
import LogIntake.Text.LowercaseRuns

/-!
# Lower case of texts

A text in lower case, by the rules of Unicode that hold in every language. A capital sigma becomes
a final sigma at the end of a word, and the capital I with a dot becomes an i with a dot above.

## Main definitions

- `isFinal`: the place between two parts of a text is the end of a word.
- `lowercase`: a text in lower case.
-/

namespace LogIntake.Text

/-- The first character that is not looked past is cased. -/
def startsCased (cs : List Char) : Bool :=
  match cs.dropWhile isCaseIgnorable with
  | [] => false
  | c :: _ => isCased c

/-- A letter is the last one of its word: a cased character stands before it and none behind it.
`before` is given from the letter backward. -/
def isFinal (before behind : List Char) : Bool := startsCased before && ! startsCased behind

/-- A character in lower case, where `before` and `behind` are the texts around it. -/
def lowercaseAt (before : List Char) (c : Char) (behind : List Char) : List Char :=
  if c = 'Σ' then [if isFinal before behind then 'ς' else 'σ']
  else if c = 'İ' then ['i', '\u0307']
  else [lowercaseChar c]

/-- The rest of a text in lower case. `before` is what precedes it, backward. -/
def lowercaseFrom (before : List Char) : List Char → List Char
  | [] => []
  | c :: behind => lowercaseAt before c behind ++ lowercaseFrom (c :: before) behind

def lowercase (cs : List Char) : List Char := lowercaseFrom [] cs

end LogIntake.Text

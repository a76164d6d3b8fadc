import Grounding.Text.Digit
import Grounding.Text.Letter
import Grounding.Text.Lowercase

/-!
# Names

How the names of a model become file names, variable names and identifiers of entities. A word
character is a letter, a numeral or the underscore.
-/

namespace Grounding.Text

def isWord (c : Char) : Bool := isLetter c || isNumeral c || c == '_'

/-- An ASCII capital letter. -/
def isCapital (c : Char) : Bool := 'A' ≤ c && c ≤ 'Z'

/-- An ASCII small letter. -/
def isSmall (c : Char) : Bool := 'a' ≤ c && c ≤ 'z'

/-! ### Snake case -/

/--
Splits the last capital from a run of two or more when a small letter follows the run, as in
`VATClearance`. The capitals read so far are `run`, the last one first.
-/
def breakAcronymsFrom (run : List Char) : List Char → List Char
  | [] => run.reverse
  | c :: rest =>
    if isCapital c then breakAcronymsFrom (c :: run) rest
    else
      let before :=
        match run with
        | last :: previous :: older =>
          if isSmall c then (previous :: older).reverse ++ ['_', last] else run.reverse
        | _ => run.reverse
      before ++ c :: breakAcronymsFrom [] rest

/-- Splits every acronym from the word after it. -/
def breakAcronyms (s : List Char) : List Char := breakAcronymsFrom [] s

/-- Splits a capital from the small letter or digit before it. -/
def breakWords : List Char → List Char
  | a :: b :: rest =>
    if (isSmall a || isDecimalDigit a) && isCapital b then a :: '_' :: b :: breakWords rest
    else a :: breakWords (b :: rest)
  | s => s

/-- Writes one underscore for each run of characters that may not stand in a word. -/
def joinWordsFrom (inGap : Bool) : List Char → List Char
  | [] => []
  | c :: rest =>
    if isWord c then c :: joinWordsFrom false rest
    else if inGap then joinWordsFrom true rest
    else '_' :: joinWordsFrom true rest

/-- The name in snake case: acronyms, then words are split, gaps are joined and case is lowered. -/
def snakeCase (name : String) : String :=
  String.ofList (lower (joinWordsFrom false (breakWords (breakAcronyms name.toList))))

/-! ### Identifiers -/

/-- The name with an underscore for each foreign character, and one in front of a leading digit. -/
def identifier (name : String) : String :=
  match name.toList.map fun c => if isWord c then c else '_' with
  | [] => "_"
  | c :: rest => String.ofList (if isDigit c then '_' :: c :: rest else c :: rest)

/-- The identifier made up for an entity of a type when none is given. -/
def entityName (typeName : String) : String :=
  String.ofList (lower (typeName.toList.take 4) ++ ['1'])

end Grounding.Text

import Grounding.Number.Numeral
import Grounding.Number.Shortest
import Grounding.Text.Quoted
import Grounding.Value.Order

/-!
# The texts of values

A value has two texts. Its literal is what a model writes: `[1, 2]`, a map as `{a=1}`, a pair as
`a=1`, an absent value as nothing. Its source is the expression that denotes it in a driver.
-/

namespace Grounding.Value

/-- Texts with a comma and a blank between them. -/
def commaJoin (parts : List (List Char)) : List Char := [',', ' '].intercalate parts

/-! ### Sources -/

/-- The components of a tuple between parentheses; a single one keeps its comma. -/
def tupleSource : List (List Char) → List Char
  | [x] => '(' :: x ++ [',', ')']
  | xs => '(' :: commaJoin xs ++ [')']

/-- The members of a set between braces; the empty set is the call that makes it. -/
def setSource : List (List Char) → List Char
  | [] => "set()".toList
  | xs => '\x7b' :: commaJoin xs ++ ['\x7d']

/-- A call of a constructor with named arguments. -/
def callSource (name : String) (args : List (List Char)) : List Char :=
  name.toList ++ '(' :: commaJoin args ++ [')']

/-- A named argument. -/
def argSource (name : String) (value : List Char) : List Char := name.toList ++ '=' :: value

mutual

/-- The expression that denotes a value. -/
def sourceChars : Value → List Char
  | none => "None".toList
  | bool true => "True".toList
  | bool false => "False".toList
  | int n => (toString n).toList
  | float x => x.text.toList
  | nan _ => Binary64.nan.text.toList
  | text s => (Text.quoted s).toList
  | pair a b =>
    callSource "Pair" [argSource "first" (sourceChars a), argSource "second" (sourceChars b)]
  | list xs => '[' :: commaJoin (itemSources xs) ++ [']']
  | tuple xs => tupleSource (itemSources xs)
  | set xs => setSource (itemSources xs)
  | map es => '\x7b' :: commaJoin (entrySources es) ++ ['\x7d']
  | entity name => callSource "Entity" [argSource "name" (Text.quoted name).toList]
  | object cls fs => callSource cls.name (fieldSources fs)

/-- The expressions of several values. -/
def itemSources : List Value → List (List Char)
  | [] => []
  | x :: xs => sourceChars x :: itemSources xs

/-- The entries of a map, each with a colon. -/
def entrySources : List (Value × Value) → List (List Char)
  | [] => []
  | (k, x) :: rest => (sourceChars k ++ ':' :: ' ' :: sourceChars x) :: entrySources rest

/-- The fields of an object as named arguments. -/
def fieldSources : List (String × Value) → List (List Char)
  | [] => []
  | (name, x) :: rest => argSource name (sourceChars x) :: fieldSources rest

end

/-- The expression that denotes a value. -/
def source (x : Value) : String := String.ofList x.sourceChars

/-- A value as plain text: a text or an identifier as it is, anything else as its source. -/
def plain : Value → String
  | text s => s
  | entity name => name
  | x => x.source

/-! ### Literals -/

mutual

/-- The literal of a value. The members of a set are sorted, where they can be compared. -/
def literalChars : Value → List Char
  | none => []
  | bool true => "true".toList
  | bool false => "false".toList
  | int n => (toString n).toList
  | float x => x.text.toList
  | nan _ => Binary64.nan.text.toList
  | text s => s.toList
  | pair a b => literalChars a ++ '=' :: literalChars b
  | list xs | tuple xs => '[' :: commaJoin ((itemLiterals xs).map Prod.snd) ++ [']']
  | set xs => '[' :: commaJoin ((sortBy Prod.fst (itemLiterals xs)).map Prod.snd) ++ [']']
  | map es => '\x7b' :: commaJoin (entryLiterals es) ++ ['\x7d']
  | entity name => name.toList
  | x@(object _ _) => sourceChars x

def itemLiterals : List Value → List (Value × List Char)
  | [] => []
  | x :: xs => (x, literalChars x) :: itemLiterals xs

/-- The entries of a map, each with an equals sign. -/
def entryLiterals : List (Value × Value) → List (List Char)
  | [] => []
  | (k, x) :: rest => (literalChars k ++ '=' :: literalChars x) :: entryLiterals rest

end

def literal (x : Value) : String := String.ofList x.literalChars

/-! ### Limits -/

mutual

/-- Whether none of the integers in a value has too many digits to be written. -/
def isWritable : Value → Bool
  | int n => Numeral.isWritable n
  | pair a b => isWritable a && isWritable b
  | list xs | tuple xs | set xs => areWritable xs
  | map es => entriesAreWritable es
  | object _ fs => fieldsAreWritable fs
  | _ => true

/-- Whether this holds of all of several values. -/
def areWritable : List Value → Bool
  | [] => true
  | x :: xs => isWritable x && areWritable xs

/-- Whether this holds of all keys and values of a map. -/
def entriesAreWritable : List (Value × Value) → Bool
  | [] => true
  | (k, x) :: rest => isWritable k && isWritable x && entriesAreWritable rest

/-- Whether this holds of all fields of an object. -/
def fieldsAreWritable : List (String × Value) → Bool
  | [] => true
  | (_, x) :: rest => isWritable x && fieldsAreWritable rest

end

end Grounding.Value

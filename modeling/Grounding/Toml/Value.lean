import Grounding.Document.Reader

/-!
# TOML values

A TOML document is a table. Dates and times are kept as they are written.
-/

namespace Grounding

/-- The kinds of date and time. -/
inductive TomlMoment where
  | date
  | dateTime
  | time
deriving DecidableEq, Repr

inductive Toml where
  | string (s : String)
  | int (n : Int)
  | float (x : Binary64)
  | bool (b : Bool)
  | moment (kind : TomlMoment) (text : String)
  | array (items : List Toml)
  | table (members : List (String × Toml))

namespace Toml

instance : Inhabited Toml := ⟨.table []⟩

instance : Document Toml where
  shape
    | .string s => .text s
    | .int n => .int n
    | .float x => .float x
    | .bool b => .bool b
    | .moment _ _ => .other
    | .array items => .items items
    | .table members => .members members

/-- Whether a value counts as true: it is not zero, empty or false. -/
def isTruthy : Toml → Bool
  | string s => !s.isEmpty
  | int n => n != 0
  | float x => !x.isZero
  | bool b => b
  | moment _ _ => true
  | array items => !items.isEmpty
  | table members => !members.isEmpty

def typeName : Toml → String
  | string _ => "str"
  | int _ => "int"
  | float _ => "float"
  | bool _ => "bool"
  | moment .date _ => "datetime.date"
  | moment .dateTime _ => "datetime.datetime"
  | moment .time _ => "datetime.time"
  | array _ => "list"
  | table _ => "dict"

/-- Why a text is no TOML document. -/
inductive Error where
  | malformed
  /-- An integer with more digits than can be converted. -/
  | tooManyDigits (count : Nat)
deriving DecidableEq, Repr

end Toml

end Grounding

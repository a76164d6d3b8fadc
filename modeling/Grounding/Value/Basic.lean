import Grounding.Json.Basic

/-!
# Values

The values that literals and JSON data stand for. Sets and maps are kept in the order in which
their members were first met. The entities of a model are known by their identifier alone; the
objects of a host have a class and fields.
-/

namespace Grounding

/-- A class of host objects. -/
structure ObjectClass where
  name : String
  /-- Whether its objects may stand in a set, provided their fields may. -/
  hashable : Bool
deriving DecidableEq, Repr

/-- A value of some type. -/
inductive Value where
  | none
  | bool (b : Bool)
  | int (n : Int)
  | float (x : Binary64)
  /-- A float that is no number and is recognised by its mark wherever it turns up again. -/
  | nan (mark : Nat)
  | text (s : String)
  | pair (first second : Value)
  | list (items : List Value)
  | tuple (items : List Value)
  | set (members : List Value)
  | map (entries : List (Value × Value))
  | entity (name : String)
  | object (cls : ObjectClass) (fields : List (String × Value))

namespace Value

instance : Inhabited Value := ⟨.none⟩

def typeName : Value → String
  | none => "NoneType"
  | bool _ => "bool"
  | int _ => "int"
  | float _ | nan _ => "float"
  | text _ => "str"
  | pair _ _ => "Pair"
  | list _ => "list"
  | tuple _ => "tuple"
  | set _ => "set"
  | map _ => "dict"
  | entity _ => "Entity"
  | object cls _ => cls.name

/-- Whether a value counts as true. -/
def isTruthy : Value → Bool
  | none => false
  | bool b => b
  | int n => n != 0
  | float x => !x.isZero
  | text s => !s.isEmpty
  | list xs | tuple xs | set xs => !xs.isEmpty
  | map es => !es.isEmpty
  | nan _ | pair _ _ | entity _ | object _ _ => true

/-- The components of a pair or a tuple. -/
def components? : Value → Option (List Value)
  | pair a b => some [a, b]
  | tuple xs => some xs
  | _ => Option.none

/-- What a value yields when it is gone through; the keys, if it is a map. -/
def elements? : Value → Option (List Value)
  | pair a b => some [a, b]
  | list xs | tuple xs | set xs => some xs
  | map es => some (es.map Prod.fst)
  | text s => some (s.toList.map fun c => text (String.singleton c))
  | _ => Option.none

/-- The place of a number; a truth value counts as zero or one. -/
def place? : Value → Option Binary64.Place
  | bool b => some (.at (if b then 1 else 0) 0)
  | int n => some (.at n 0)
  | float x => x.place?
  | _ => Option.none

end Value

namespace Json

/-- The value of a number with a fraction or an exponent. The word for no number always stands for
one and the same value. -/
def ofFloat : Binary64 → Value
  | .nan => .nan 0
  | x => .float x

mutual

/-- A JSON value as a value: an array is a list, and an object a map with keys that are texts. -/
def toValue : Json → Value
  | null => .none
  | bool b => .bool b
  | int n => .int n
  | float x => ofFloat x
  | string s => .text s
  | array items => .list (toValues items)
  | object members => .map (toEntries members)

/-- The values of the items of an array. -/
def toValues : List Json → List Value
  | [] => []
  | j :: rest => toValue j :: toValues rest

/-- The entries for the members of an object. -/
def toEntries : List (String × Json) → List (Value × Value)
  | [] => []
  | (name, j) :: rest => (.text name, toValue j) :: toEntries rest

end

end Json

end Grounding

/-!
# Type descriptors

A descriptor names the type of a value in an abstract test suite: one of nine primitive types, one
of four generic containers, or an external type of the system under test, known by its name only.
-/

namespace Grounding

inductive Primitive where
  | string
  | integer
  | double
  | long
  | boolean
  | character
  | float
  | short
  | byte
deriving DecidableEq, Repr

namespace Primitive

def all : List Primitive :=
  [string, integer, double, long, boolean, character, float, short, byte]

def name : Primitive → String
  | string => "String"
  | integer => "Integer"
  | double => "Double"
  | long => "Long"
  | boolean => "Boolean"
  | character => "Character"
  | float => "Float"
  | short => "Short"
  | byte => "Byte"

def ofName? (name : String) : Option Primitive := all.find? fun p => p.name == name

/-- What the values of a primitive type are. -/
inductive Scalar where
  | text
  | character
  | boolean
  | integral
  | floating
deriving DecidableEq, Repr

/-- What the values of this type are. -/
def scalar : Primitive → Scalar
  | string => .text
  | character => .character
  | boolean => .boolean
  | integer | long | short | byte => .integral
  | double | float => .floating

/-- The type that holds such values in a generated driver. -/
def hostType (p : Primitive) : String :=
  match p.scalar with
  | .text | .character => "str"
  | .boolean => "bool"
  | .integral => "int"
  | .floating => "float"

end Primitive

inductive Container where
  | list
  | set
  | map
  | pair
deriving DecidableEq, Repr

def Container.all : List Container := [.list, .set, .map, .pair]

/-- The number of types a container takes. -/
def Container.arity : Container → Nat
  | .list | .set => 1
  | .map | .pair => 2

/-- The name of a container in the model's own descriptors. -/
def Container.name : Container → String
  | .list => "List"
  | .set => "Set"
  | .map => "Map"
  | .pair => "Pair"

/-- The variants of a descriptor. -/
inductive Kind where
  | primitive
  | container (c : Container)
  | external
deriving DecidableEq, Repr

def Kind.name : Kind → String
  | .primitive => "primitive"
  | .container .list => "list"
  | .container .set => "set"
  | .container .map => "map"
  | .container .pair => "pair"
  | .external => "external"

inductive Descriptor where
  | primitive (p : Primitive)
  | external (name : String)
  | list (element : Descriptor)
  | set (element : Descriptor)
  | map (key value : Descriptor)
  | pair (first second : Descriptor)
deriving DecidableEq, Repr

namespace Descriptor

def kind : Descriptor → Kind
  | primitive _ => .primitive
  | external _ => .external
  | list _ => .container .list
  | set _ => .container .set
  | map _ _ => .container .map
  | pair _ _ => .container .pair

/-- The name of the outermost type. -/
def name : Descriptor → String
  | primitive p => p.name
  | external name => name
  | list _ => Container.name .list
  | set _ => Container.name .set
  | map _ _ => Container.name .map
  | pair _ _ => Container.name .pair

/-- The types a container is applied to. -/
def params : Descriptor → List Descriptor
  | primitive _ | external _ => []
  | list e | set e => [e]
  | map k v | pair k v => [k, v]

/-- Whether the outermost type is a container. -/
def isGeneric (d : Descriptor) : Bool :=
  match d.kind with
  | .container _ => true
  | _ => false

/-- Whether an external type occurs anywhere. -/
def hasExternal : Descriptor → Bool
  | primitive _ => false
  | external _ => true
  | list e | set e => e.hasExternal
  | map k v | pair k v => k.hasExternal || v.hasExternal

/-- The containers that occur, outermost first. -/
def containers : Descriptor → List Container
  | primitive _ | external _ => []
  | list e => .list :: e.containers
  | set e => .set :: e.containers
  | map k v => .map :: (k.containers ++ v.containers)
  | pair k v => .pair :: (k.containers ++ v.containers)

/-- The type that holds such values in a generated driver. Pairs are written without their types. -/
def hostType : Descriptor → String
  | primitive p => p.hostType
  | external name => name
  | list e => "List[" ++ e.hostType ++ "]"
  | set e => "Set[" ++ e.hostType ++ "]"
  | map k v => "Dict[" ++ k.hostType ++ ", " ++ v.hostType ++ "]"
  | pair _ _ => "Pair"

end Descriptor

end Grounding

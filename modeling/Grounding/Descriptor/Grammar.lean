import Grounding.Descriptor.Basic

/-!
# Surface grammars

Descriptors are written in two ways. The model writes `Map[String, Vat]`; the drivers, which name
the types of their host, write `HashMap<String, Vat>`.
-/

namespace Grounding

/-- A way to write descriptors. -/
inductive Grammar where
  | bracket
  | angle
deriving DecidableEq, Repr

namespace Grammar

/-- The character before the parameters of a container. -/
def opening : Grammar → Char
  | bracket => '['
  | angle => '<'

/-- The character after the parameters of a container. -/
def closing : Grammar → Char
  | bracket => ']'
  | angle => '>'

def baseName : Grammar → Container → String
  | bracket, c => c.name
  | angle, .list => "ArrayList"
  | angle, .set => "HashSet"
  | angle, .map => "HashMap"
  | angle, .pair => "SimpleEntry"

def container? (g : Grammar) (name : String) : Option Container :=
  Container.all.find? fun c => g.baseName c == name

/-- A container applied to types that are written already. -/
def apply (g : Grammar) (c : Container) (params : List String) : String :=
  g.baseName c ++ String.singleton g.opening ++ ", ".intercalate params ++
    String.singleton g.closing

end Grammar

namespace Descriptor

def render (g : Grammar) : Descriptor → String
  | primitive p => p.name
  | external name => name
  | list e => g.apply .list [e.render g]
  | set e => g.apply .set [e.render g]
  | map k v => g.apply .map [k.render g, v.render g]
  | pair k v => g.apply .pair [k.render g, v.render g]

example :
    (map (primitive .string) (list (external "Vat"))).render .angle =
      "HashMap<String, ArrayList<Vat>>" := by decide

end Descriptor

/-! ### Errors -/

/-- What a projection of a descriptor extracts. -/
inductive Projection where
  | key
  | value
  | pair
deriving DecidableEq, Repr

/-- Why a descriptor cannot be read, built or taken apart. -/
inductive DescriptorError where
  /-- Nothing but blanks. -/
  | empty (text : String)
  /-- Brackets in a text that uses neither delimiter of the grammar. -/
  | badlyFormed (text : String)
  /-- Delimiters that are missing, unmatched or followed by more text. -/
  | badlyFormedGeneric (text : String)
  /-- A name before the delimiters that is no container. -/
  | unrecognised (text : String)
  /-- The wrong number of parameters. -/
  | arity (base text : String) (expected : Nat)
  /-- The wrong number of types for a container that is built directly. -/
  | paramCount (container : Container)
  /-- A variant that takes no types at all. -/
  | notGeneric (kind : Kind)
  /-- A projection of a type that is no container. -/
  | noProjection (projection : Projection) (type : Descriptor)
deriving DecidableEq, Repr

namespace DescriptorError

def message : DescriptorError → String
  | empty _ => "Empty type descriptor"
  | badlyFormed text => "Badly-formed type: " ++ text
  | badlyFormedGeneric text => "Badly-formed generic type: " ++ text
  | unrecognised text => "Unrecognised generic type: " ++ text
  | arity base text expected =>
    "Badly-formed " ++ base ++ " type: " ++ text ++ " (expects " ++ toString expected ++
      " parameter(s))"
  | paramCount c =>
    "Badly-formed " ++ c.name ++ " type: expects " ++ toString c.arity ++ " parameter(s)"
  | notGeneric k =>
    "<DescriptorKind." ++ k.name.map Char.toUpper ++ ": '" ++ k.name ++ "'>"
  | noProjection .key d => "Cannot extract key type of: " ++ d.render .bracket
  | noProjection .value d => "Cannot extract value type of: " ++ d.render .bracket
  | noProjection .pair d => "Cannot extract pair type of: " ++ d.render .bracket

/-- The descriptor at fault, as far as it is known. -/
def subject : DescriptorError → String
  | empty text | badlyFormed text | badlyFormedGeneric text | unrecognised text => text
  | arity _ text _ => text
  | paramCount c => c.name
  | notGeneric k => k.name
  | noProjection _ d => d.render .bracket

end DescriptorError

namespace Descriptor

/-- A descriptor of the given variant, which must be a container with the right number of types. -/
def generic (kind : Kind) (params : List Descriptor) : Except DescriptorError Descriptor :=
  match kind, params with
  | .container .list, [e] => .ok (.list e)
  | .container .set, [e] => .ok (.set e)
  | .container .map, [k, v] => .ok (.map k v)
  | .container .pair, [k, v] => .ok (.pair k v)
  | .container c, _ => .error (.paramCount c)
  | k, _ => .error (.notGeneric k)

/-- The type of the keys: that of the index for a list or a set, else the first type. -/
def keyType (d : Descriptor) : Except DescriptorError Descriptor :=
  match d with
  | list _ | set _ => .ok (.primitive .integer)
  | map k _ | pair k _ => .ok k
  | primitive _ | external _ => .error (.noProjection .key d)

/-- The type of the values: that of the elements, else the last type. -/
def valueType (d : Descriptor) : Except DescriptorError Descriptor :=
  match d with
  | list e | set e => .ok e
  | map _ v | pair _ v => .ok v
  | primitive _ | external _ => .error (.noProjection .value d)

/-- The type of the entries, a pair of the key type and the value type. -/
def pairType (d : Descriptor) : Except DescriptorError Descriptor :=
  match d.keyType, d.valueType with
  | .ok k, .ok v => .ok (.pair k v)
  | _, _ => .error (.noProjection .pair d)

end Descriptor

end Grounding

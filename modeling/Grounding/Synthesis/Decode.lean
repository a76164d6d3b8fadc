import Grounding.Synthesis.Create

/-!
# Values from JSON

JSON data is read by the descriptor of its type, and null stays absent at every place. The names of
an object that is read as a map are literals of the key type. A pair is an array of two items, or an
object with the members `key` and `value`, or `first` and `second`.
-/

namespace Grounding

namespace Primitive

def ofJson (p : Primitive) (data : Json) : Except Fault Value :=
  let refused : Except Fault Value := .error (.literal (.notPrimitive p (.json data)))
  match p.scalar, data with
  | .text, .string s => .ok (.text s)
  | .character, .string s =>
    .ok (if s.isEmpty then p.default else .text (String.ofList (s.toList.take 1)))
  | .boolean, .bool b => .ok (.bool b)
  | .integral, .int n => .ok (.int n)
  | .integral, .float x =>
    match x.toInt? with
    | some n => .ok (.int n)
    | none => refused
  | .floating, .int n =>
    match Binary64.ofInt? n with
    | some x => .ok (.float x)
    | none => .error .tooLarge
  | .floating, .float x => .ok (Json.ofFloat x)
  | _, _ => refused

end Primitive

namespace Synthesis

/-- The items of an array that is read as a list or a set. -/
def itemsOf (d : Descriptor) : Json → Except LiteralError (List Json)
  | .array items => .ok items
  | data => .error (.notArray d data)

/-- The members of an object that is read as a map. -/
def membersOf (d : Descriptor) : Json → Except LiteralError (List (String × Json))
  | .object members => .ok members
  | data => .error (.notObject d data)

/-- The members with exactly these two names, in either order. -/
def twoMembers? (first second : String) (members : List (String × Json)) : Option (Json × Json) :=
  match members with
  | [(m, i), (n, j)] =>
    if m == first && n == second then some (i, j)
    else if m == second && n == first then some (j, i)
    else none
  | _ => none

def componentsOf (d : Descriptor) (data : Json) : Except LiteralError (Json × Json) :=
  let both? :=
    match data with
    | .array [i, j] => some (i, j)
    | .object members =>
      (twoMembers? "key" "value" members).or (twoMembers? "first" "second" members)
    | _ => none
  match both? with
  | some both => .ok both
  | none => .error (.undecodable (d.render .bracket) data)

variable {m : Type → Type} [Monad m] [MonadExcept Fault m]

/-- A value of an external type: from the members of an object, else from the text of a scalar. -/
def decodeExternal (ext : Externals m) (type : String) : Json → m Value
  | .object members => ext.ofMembers type members
  | .array items => throw (.literal (.undecodable type (.array items)))
  | data => ext.ofIdentifier type data.toValue.plain

/-- The value of a type that JSON data stands for. -/
def decode (ext : Externals m) : Descriptor → Json → m Value
  | .primitive p, data =>
    match data with
    | .null => pure .none
    | data => checked (p.ofJson data)
  | .external type, data =>
    match data with
    | .null => pure .none
    | data => decodeExternal ext type data
  | .list e, data =>
    match data with
    | .null => pure .none
    | data => do
      let items ← reading (itemsOf (.list e) data)
      return .list (← items.mapM fun item => decode ext e item)
  | .set e, data =>
    match data with
    | .null => pure .none
    | data => do
      let items ← reading (itemsOf (.set e) data)
      return .set (← items.foldlM (fun xs item =>
        tryCatch
          (do
            let x ← decode ext e item
            checked x.requireHashable
            return x.insertMember xs)
          fun fault =>
            match fault with
            | .mismatch _ => throw (.literal (.unhashableItem item))
            | fault => throw fault) [])
  | .map k v, data =>
    match data with
    | .null => pure .none
    | data => do
      let members ← reading (membersOf (.map k v) data)
      return .map (← members.foldlM (fun es (name, item) => do
        let key ← create ext k name.toList
        let x ← decode ext v item
        checked key.requireHashable
        return key.putEntry x es) [])
  | .pair a b, data =>
    match data with
    | .null => pure .none
    | data => do
      let (first, second) ← reading (componentsOf (.pair a b) data)
      let x ← decode ext a first
      return .pair x (← decode ext b second)

/-- The value that a JSON document stands for, if there is one, by the text of a descriptor. -/
def decodeText (ext : Externals m) (g : Grammar) (document : Option String) (type : String) :
    m Value := do
  let data ←
    match document with
    | none => pure .null
    | some text =>
      match Json.parse text with
      | .ok data => pure data
      | .error e => throw (.json e)
  decode ext (← readType g type) data

end Synthesis

end Grounding

import Grounding.Descriptor.Parser
import Grounding.Number.Numeral
import Grounding.Synthesis.Fault
import Grounding.Text.Word

/-!
# Values from literals

A literal is read by the descriptor of its type. A composite literal stands between delimiters and
has its members separated by a comma and a blank; without delimiters it is a single member. A pair
has an equals sign between its components. An empty literal stands for the default value. How values
of external types come about is left open, since a model and a driver differ in that alone.
-/

namespace Grounding

open Text

/-- How the values of external types are made. -/
structure Externals (m : Type → Type) where
  /-- Makes a value of a type from an identifier. -/
  ofIdentifier : (type identifier : String) → m Value
  /-- Makes a value of a type from the members of a JSON object. -/
  ofMembers : (type : String) → (members : List (String × Json)) → m Value

/-! ### Primitive types -/

namespace Primitive

/-- The value of a primitive type when nothing is given. -/
def default (p : Primitive) : Value :=
  match p.scalar with
  | .text => .text ""
  | .character => .text "0"
  | .boolean => .bool false
  | .integral => .int 0
  | .floating => .float (.zero false)

/-- Reads a truth value, whatever its case; blanks around it are ignored. -/
def readBool? (literal : List Char) : Option Bool :=
  let word := lower (strip literal)
  if word == "true".toList then some true
  else if word == "false".toList then some false
  else none

def ofLiteral? (p : Primitive) (literal : List Char) : Option Value :=
  match p.scalar with
  | .text => some (.text (String.ofList literal))
  | .character => some (.text (String.ofList (literal.take 1)))
  | .boolean => (readBool? literal).map .bool
  | .integral => (Numeral.readInt? (String.ofList literal)).map .int
  | .floating => (Numeral.readBinary64? (String.ofList literal)).map .float

/-- Reads a literal of a primitive type; an empty one is the default. -/
def ofLiteral (p : Primitive) (literal : List Char) : Except LiteralError Value :=
  if literal.isEmpty then .ok p.default
  else
    match p.ofLiteral? literal with
    | some x => .ok x
    | none => .error (.notPrimitive p (.literal (String.ofList literal)))

end Primitive

namespace Synthesis

/-! ### Composite literals -/

/-- Between two members of a composite literal. -/
def memberSeparator : List Char := [',', ' ']

/-- The literal that, alone without delimiters, stands for a member with the default value. -/
def defaultMember : List Char := ['?']

/-- The literals of the members of a composite. A lone `?` is a member without a literal. -/
def members (b : Bracket) (literal : List Char) :
    Except LiteralError (List (Option (List Char))) :=
  let malformed := LiteralError.badlyFormedComposite (String.ofList literal)
  match literal with
  | [] => .ok []
  | c :: rest =>
    if c == b.opening && rest.getLast? == some b.closing then
      if !balanced rest.dropLast then .error malformed
      else if (strip rest.dropLast).isEmpty then .ok []
      else .ok ((splitTopLevel memberSeparator rest.dropLast).map some)
    else if c == b.opening || literal.getLast? == some b.closing then .error malformed
    else .ok [if literal == defaultMember then none else some literal]

/-- The literals of the two components of a pair; what is missing is empty. -/
def components (literal : List Char) : Except LiteralError (List Char × List Char) :=
  match splitTopLevel ['='] literal with
  | [first] => .ok (first, [])
  | [first, second] => .ok (first, second)
  | _ => .error (.badlyFormedPair (String.ofList literal))

/-- Adds a member to a set unless it is unhashable. -/
def addMember (x : Value) (xs : List Value) (refusal : LiteralError) :
    Except LiteralError (List Value) :=
  if x.isHashable then .ok (x.insertMember xs) else .error refusal

/-- Puts an entry into a map unless its key is unhashable. -/
def addEntry (k x : Value) (es : List (Value × Value)) (refusal : LiteralError) :
    Except LiteralError (List (Value × Value)) :=
  if k.isHashable then .ok (k.putEntry x es) else .error refusal

variable {m : Type → Type} [Monad m] [MonadExcept Fault m]

/-- Reports a fault of reading as a fault of synthesis. -/
def reading {α : Type} : Except LiteralError α → m α
  | .ok a => pure a
  | .error e => throw (.literal e)

/-- Reports a fault within a synthesis. -/
def checked {α : Type} : Except Fault α → m α
  | .ok a => pure a
  | .error e => throw e

/-- Makes a member of a set and adds it. -/
def addPart (make : List Char → m Value) (literal : List Char) (xs : List Value)
    (part : Option (List Char)) : m (List Value) := do
  let x ← make (part.getD [])
  reading (addMember x xs
    (.unhashableElement (part.map String.ofList) (String.ofList literal)))

/-- Makes an entry of a map and puts it there. -/
def putPart (makeKey makeItem : List Char → m Value) (literal : List Char)
    (es : List (Value × Value)) (part : Option (List Char)) : m (List (Value × Value)) := do
  let (first, second) ← reading (components (part.getD []))
  let key ← makeKey first
  let item ← makeItem second
  reading (addEntry key item es
    (.unhashableKey (part.map String.ofList) (String.ofList literal)))

/-- The value of a type that a literal stands for. -/
def create (ext : Externals m) : Descriptor → List Char → m Value
  | .primitive p, literal => reading (p.ofLiteral literal)
  | .external type, literal =>
    ext.ofIdentifier type (if literal.isEmpty then entityName type else String.ofList literal)
  | .list e, literal => do
    let parts ← reading (members .square literal)
    return .list (← parts.mapM fun part => create ext e (part.getD []))
  | .set e, literal => do
    let parts ← reading (members .square literal)
    return .set (← parts.foldlM (addPart (create ext e) literal) [])
  | .map k v, literal => do
    let parts ← reading (members .curly literal)
    return .map (← parts.foldlM (putPart (create ext k) (create ext v) literal) [])
  | .pair a b, literal => do
    let (first, second) ← reading (components literal)
    let x ← create ext a first
    return .pair x (← create ext b second)

def createDefault (ext : Externals m) (d : Descriptor) : m Value := create ext d []

def readType (g : Grammar) (type : String) : m Descriptor :=
  match Descriptor.parse g type with
  | .ok d => pure d
  | .error e => throw (.descriptor e)

/-- The value that a literal stands for, if there is one, by the text of a descriptor. -/
def createText (ext : Externals m) (g : Grammar) (literal : Option String) (type : String) :
    m Value := do
  create ext (← readType g type) (literal.getD "").toList

end Synthesis

end Grounding

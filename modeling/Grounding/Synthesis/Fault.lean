import Grounding.Descriptor.Grammar
import Grounding.Json.Parser
import Grounding.Value.Literal

/-!
# Faults of synthesis

A value that cannot be made is a fault with a cause. Three causes concern what was asked for: a
descriptor, a literal or an external type. The others are operations that a value does not admit.
-/

namespace Grounding

/-- What a value is made from. -/
inductive Origin where
  | literal (text : String)
  | json (data : Json)

namespace Origin

def shown : Origin → String
  | literal text => text
  | json data => data.toValue.source

/-- The bare text of an origin. -/
def plain : Origin → String
  | literal text => text
  | json data => data.toValue.plain

end Origin

/-- Why a literal or JSON data does not fit a descriptor. -/
inductive LiteralError where
  | notPrimitive (type : Primitive) (origin : Origin)
  /-- Delimiters that do not match each other. -/
  | badlyFormedComposite (literal : String)
  /-- More than one equals sign. -/
  | badlyFormedPair (literal : String)
  /-- A member of a set literal; a lone `?` stands for no literal at all. -/
  | unhashableElement (member : Option String) (literal : String)
  /-- A member of a map literal. -/
  | unhashableKey (member : Option String) (literal : String)
  /-- An item of an array that is read as a set. -/
  | unhashableItem (item : Json)
  | notArray (type : Descriptor) (data : Json)
  | notObject (type : Descriptor) (data : Json)
  /-- Data of a shape from which no value of the type is made. -/
  | undecodable (type : String) (data : Json)

namespace LiteralError

def shownMember (member : Option String) : String := member.getD "None"

def message : LiteralError → String
  | notPrimitive p origin => "Not a " ++ p.name ++ " value: " ++ origin.shown
  | badlyFormedComposite literal => "Badly-formed composite value: " ++ literal
  | badlyFormedPair literal => "Badly-formed Pair value: " ++ literal
  | unhashableElement member _ => "Set element is not hashable: " ++ shownMember member
  | unhashableKey member _ => "Map key is not hashable: " ++ shownMember member
  | unhashableItem item => "Set element is not hashable: " ++ (Origin.json item).shown
  | notArray d data =>
    "Expected a JSON array for " ++ d.render .bracket ++ ": " ++ (Origin.json data).shown
  | notObject d data =>
    "Expected a JSON object for " ++ d.render .bracket ++ ": " ++ (Origin.json data).shown
  | undecodable type data => "Cannot decode " ++ type ++ " from: " ++ (Origin.json data).shown

def subject : LiteralError → String
  | notPrimitive _ origin => origin.plain
  | badlyFormedComposite literal | badlyFormedPair literal => literal
  | unhashableElement _ literal | unhashableKey _ literal => literal
  | unhashableItem data | notArray _ data | notObject _ data | undecodable _ data =>
    (Origin.json data).plain

end LiteralError

/-- Why a value of an external type cannot be made. -/
inductive ExternalError where
  | notFound (type : String)
  /-- The constructor does not take a single identifier. -/
  | noConstructor (type : String)
  | refusedIdentifier (type identifier : String)
  | refusedMembers (type : String) (members : List (String × Json))

namespace ExternalError

def message : ExternalError → String
  | notFound type => "Cannot find the external type: " ++ type
  | noConstructor type => "External type " ++ type ++ " has no single-identifier constructor"
  | refusedIdentifier type identifier =>
    "Cannot construct " ++ type ++ " from identifier: " ++ identifier
  | refusedMembers type members =>
    "Cannot construct " ++ type ++ " from JSON object: " ++ (Json.object members).toValue.source

def typeName : ExternalError → String
  | notFound type | noConstructor type => type
  | refusedIdentifier type _ | refusedMembers type _ => type

def reason : ExternalError → String
  | notFound _ => "not-found"
  | noConstructor _ => "no-constructor"
  | refusedIdentifier _ _ | refusedMembers _ _ => "constructor-failed"

end ExternalError

inductive Sign where
  | plus
  | minus
deriving DecidableEq, Repr

def Sign.text : Sign → String
  | plus => "+"
  | minus => "-"

/-- An operation on a value of a type that does not admit it. -/
inductive Mismatch where
  | unhashable (type : String)
  | operands (sign : Sign) (left right : String)
  | concatenation (left right : String)
  | notIterable (type : String)
  | notSubscriptable (type : String)
  /-- A sequence that is indexed by something other than an integer. -/
  | notIndex (container type : String)
  | notTextIndex (type : String)
  /-- Something other than a text that is looked for in a text. -/
  | notInText (type : String)
  /-- An element, with its number, of which no entry of a map can be made. -/
  | notEntry (element : Nat)
  | notText (type : String)
  | notOneCharacter (length : Nat)
  /-- A package whose name starts with a point. -/
  | relativePackage (name : String)
  /-- A mismatch in the code of a package. -/
  | foreign (message : String)
deriving DecidableEq, Repr

def Mismatch.message : Mismatch → String
  | unhashable type => "unhashable type: '" ++ type ++ "'"
  | operands sign left right =>
    "unsupported operand type(s) for " ++ sign.text ++ ": '" ++ left ++ "' and '" ++ right ++ "'"
  | concatenation left right =>
    "can only concatenate " ++ left ++ " (not \"" ++ right ++ "\") to " ++ left
  | notIterable type => "'" ++ type ++ "' object is not iterable"
  | notSubscriptable type => "'" ++ type ++ "' object is not subscriptable"
  | notIndex container type => container ++ " indices must be integers or slices, not " ++ type
  | notTextIndex type => "string indices must be integers, not '" ++ type ++ "'"
  | notInText type => "'in <string>' requires string as left operand, not " ++ type
  | notEntry element =>
    "cannot convert dictionary update sequence element #" ++ toString element ++ " to a sequence"
  | notText type => "ord() expected string of length 1, but " ++ type ++ " found"
  | notOneCharacter length =>
    "ord() expected a character, but string of length " ++ toString length ++ " found"
  | relativePackage name =>
    "the 'package' argument is required to perform a relative import for '" ++ name ++ "'"
  | foreign message => message

/-- Why a value cannot be made or moved. -/
inductive Fault where
  | descriptor (e : DescriptorError)
  /-- A text that is no JSON document. -/
  | json (e : Json.ParseError)
  | literal (e : LiteralError)
  | external (e : ExternalError)
  | mismatch (e : Mismatch)
  /-- No character lies there. -/
  | noCharacter
  /-- An integer beyond the range of floating-point numbers. -/
  | tooLarge
  /-- A sequence without a component. -/
  | noComponent (type : String)
  /-- A map without a key. -/
  | noKey (key : Value)
  /-- An element, with its number, that has not two parts as an entry of a map should. -/
  | entryLength (element length : Nat)
  /-- An integer with too many digits to be written. -/
  | tooLong
  /-- An error of another kind in the code of a package. -/
  | foreign (kind message : String)

def Fault.message : Fault → String
  | descriptor e => e.message
  | json e => e.message
  | literal e => e.message
  | external e => e.message
  | mismatch e => e.message
  | noCharacter => "chr() arg not in range(0x110000)"
  | tooLarge => "int too large to convert to float"
  | noComponent type => type ++ " index out of range"
  | noKey key => key.source
  | entryLength element length =>
    "dictionary update sequence element #" ++ toString element ++ " has length " ++
      toString length ++ "; 2 is required"
  | tooLong => Numeral.writeLimitMessage
  | foreign _ message => message

namespace Value

/-- Refuses a value that may not be a member of a set. -/
def requireHashable (x : Value) : Except Fault Unit :=
  match x.unhashable? with
  | some type => .error (.mismatch (.unhashable type))
  | Option.none => .ok ()

end Value

end Grounding

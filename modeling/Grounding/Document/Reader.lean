import Grounding.Document.Validated
import Grounding.Number.Numeral

/-!
# Reading documents

Documents of different formats share a few kinds of node. A reader takes a node and checks that it
is of the right kind, or that it can be taken for one: numbers and some words stand for truth
values, and truth values and some texts stand for integers. Texts are never made from anything else.
-/

namespace Grounding

/-- The kinds of node in a document. -/
inductive Shape (α : Type) where
  | null
  | bool (b : Bool)
  | int (n : Int)
  | float (x : Binary64)
  | text (s : String)
  | items (nodes : List α)
  | members (nodes : List (String × α))
  /-- A node of a kind that has no other use, such as a date. -/
  | other

class Document (α : Type) where
  shape : α → Shape α

namespace Reader

open Document Validated

variable {α β : Type} [Document α]

-- Powers are the core library's, whatever else is imported beside this module.
attribute [local instance (high)] instPowNat

def text (node : α) : Validated String :=
  match shape node with
  | .text s => valid s
  | _ => problem .notText

/-! ### Truth values -/

def falseWords : List String := ["0", "off", "f", "false", "n", "no"]

def trueWords : List String := ["1", "on", "t", "true", "y", "yes"]

/-- The truth value of a word, whatever its case. -/
def boolOfText (s : String) : Validated Bool :=
  let word := s.map Char.toLower
  if falseWords.contains word then valid false
  else if trueWords.contains word then valid true
  else problem .badBool

/-- The truth value of an integer. -/
def boolOfInt (n : Int) : Validated Bool :=
  if n == 0 then valid false else if n == 1 then valid true else problem .badBool

/-- Whether an integer has a machine word of 64 bits. -/
def isWord64 (n : Int) : Bool := -2 ^ (63 : Nat) ≤ n && n < 2 ^ (63 : Nat)

/-- The integer that a float stands for; those that no machine word can hold stand for none, and
neither does the least word, which a float may have reached by rounding. -/
def intOfFloat (x : Binary64) : Except Problem Int :=
  match x with
  | .finite .. =>
    match x.toInt? with
    | some n => if isWord64 n && n != -2 ^ (63 : Nat) then .ok n else .error .longInt
    | none => .error .fractionalInt
  | _ => .error .infiniteInt

/-- A truth value, or a number or word that stands for one. -/
def bool (node : α) : Validated Bool :=
  match shape node with
  | .bool b => valid b
  | .text s => boolOfText s
  | .int n => if isWord64 n then boolOfInt n else problem .notBool
  | .float x =>
    match intOfFloat x with
    | .ok n => boolOfInt n
    | .error _ => problem .notBool
  | _ => problem .notBool

/-! ### Integers -/

/-- The text between white space. -/
def trim (s : List Char) : List Char :=
  ((s.dropWhile Text.isWhiteSpace).reverse.dropWhile Text.isWhiteSpace).reverse

/-- Drops the zeros and underscores in front of a number, up to the last one before a point. A minus
sign may follow the zeros. -/
def dropZerosFrom (last : Char) : List Char → Option (List Char)
  | [] => some [last]
  | c :: rest =>
    if c == '0' || c == '_' then dropZerosFrom c rest
    else if c.isDigit || c == '-' then some (c :: rest)
    else if c == '.' then some (last :: c :: rest)
    else none

/-- Drops leading zeros; a number starts with a digit or a minus sign. -/
def dropZeros : List Char → Option (List Char)
  | [] => none
  | c :: rest =>
    if c == '0' then dropZerosFrom c rest
    else if c.isDigit || c == '-' then some (c :: rest)
    else none

/-- Drops a point that zeros follow, at least one and nothing else. -/
def dropZeroFraction (s : List Char) : List Char :=
  let fraction := (s.dropWhile (· != '.')).drop 1
  if !fraction.isEmpty && fraction.all (· == '0') then s.takeWhile (· != '.') else s

def dropUnderscores (s : List Char) : Option (List Char) :=
  if s.head? == some '_' || s.getLast? == some '_' then none
  else if (s.zip (s.drop 1)).contains ('_', '_') then none
  else some (s.filter (· != '_'))

/-- The digits of a number, behind a minus sign if one stands among its zeros. -/
def cleanDigits (s : List Char) : Option (List Char) := do
  dropUnderscores (dropZeroFraction (← dropZeros s))

/-- The digits of a number with its minus sign, if it has one. -/
def cleanInt (s : String) : Option (List Char) :=
  match trim s.toList with
  | '+' :: '-' :: _ => none
  | '+' :: rest => cleanDigits rest
  | '-' :: rest => (cleanDigits rest).map ('-' :: ·)
  | rest => cleanDigits rest

/-- Whether digits write a number: at least one of them, and no zero in front of others. -/
def areDigits : List Char → Bool
  | [] => false
  | c :: rest => c.isDigit && rest.all Char.isDigit && (c != '0' || rest.isEmpty)

/-- The integer that a text stands for. -/
def intOfText (s : String) : Validated Int :=
  match cleanInt s with
  | none => problem .badInt
  | some digits =>
    let (negative, digits) := Numeral.takeSign digits
    if !areDigits digits then problem .badInt
    else if Numeral.digitLimit < digits.length then problem .longInt
    else valid (Binary64.signed negative (Numeral.ofDigits digits))

/-- An integer, or a number, truth value or text that stands for one. -/
def int (node : α) : Validated Int :=
  match shape node with
  | .int n => valid n
  | .bool b => valid (if b then 1 else 0)
  | .text s => intOfText s
  | .float x =>
    match intOfFloat x with
    | .ok n => valid n
    | .error p => problem p
  | _ => problem .notInt

/-! ### Composite nodes -/

def optional (read : α → Validated β) (node : α) : Validated (Option β) :=
  match shape node with
  | .null => valid none
  | _ => some <$> read node

/-- The items of a list, the first of which has the given index. -/
def itemsFrom (read : α → Validated β) (index : Nat) : List α → Validated (List β)
  | [] => valid []
  | node :: rest =>
    List.cons <$> (read node).under (.item index) <*> itemsFrom read (index + 1) rest

def list (read : α → Validated β) (node : α) : Validated (List β) :=
  match shape node with
  | .items nodes => itemsFrom read 0 nodes
  | _ => problem .notList

def record (read : List (String × α) → Validated β) (node : α) : Validated β :=
  match shape node with
  | .members nodes => read nodes
  | _ => problem .notRecord

/-- A member that must be there. -/
def required (name : String) (read : α → Validated β) (nodes : List (String × α)) : Validated β :=
  match nodes.lookup name with
  | some node => (read node).under (.member name)
  | none => (problem .missing).under (.member name)

/-- A member that may be missing. -/
def defaulted (name : String) (read : α → Validated β) (fallback : β) (nodes : List (String × α)) :
    Validated β :=
  match nodes.lookup name with
  | some node => (read node).under (.member name)
  | none => valid fallback

end Reader

end Grounding

import Grounding.Json.Basic
import Grounding.Number.Shortest
import Grounding.Text.Hex

/-!
# Writing JSON

The compact text of a JSON value. What its strings escape is a parameter: everything beyond ASCII,
or no more than the grammar asks for.
-/

namespace Grounding.Json

open Text

def unitEscape (n : Nat) : List Char := '\\' :: 'u' :: hexText smallHexDigits 4 n

/-- One character of a string in ASCII, with one or two escapes for a character beyond. -/
def asciiChar (c : Char) : List Char :=
  if c == '"' || c == '\\' then ['\\', c]
  else if c == '\n' then ['\\', 'n']
  else if 0x20 ≤ c.toNat && c.toNat < 0x7f then [c]
  else if c.toNat < 0x10000 then unitEscape c.toNat
  else
    let n := c.toNat - 0x10000
    unitEscape (0xd800 + n / 0x400) ++ unitEscape (0xdc00 + n % 0x400)

/-- One character of a string that is escaped only where the grammar asks for it. -/
def plainChar (c : Char) : List Char :=
  if c == '"' || c == '\\' then ['\\', c]
  else if c == '\n' then ['\\', 'n']
  else if c == '\r' then ['\\', 'r']
  else if c == '\t' then ['\\', 't']
  else if c == '\x08' then ['\\', 'b']
  else if c == '\x0c' then ['\\', 'f']
  else if c.toNat < 0x20 then unitEscape c.toNat
  else [c]

/-- A string between its quotes. -/
def printString (escape : Char → List Char) (s : String) : List Char :=
  '"' :: s.toList.flatMap escape ++ ['"']

/-- A number that may be infinite or none. -/
def printFloat (x : Binary64) : List Char :=
  match x with
  | .nan => "NaN".toList
  | .infinite false => "Infinity".toList
  | .infinite true => "-Infinity".toList
  | .finite .. => x.text.toList

mutual

/-- The compact text of a value. -/
def print (escape : Char → List Char) : Json → List Char
  | null => "null".toList
  | bool true => "true".toList
  | bool false => "false".toList
  | int n => (toString n).toList
  | float x => printFloat x
  | string s => printString escape s
  | array items => '[' :: printItems escape items ++ [']']
  | object members => '\x7b' :: printMembers escape members ++ ['\x7d']

/-- Values with commas between them. -/
def printItems (escape : Char → List Char) : List Json → List Char
  | [] => []
  | [j] => print escape j
  | j :: rest => print escape j ++ ',' :: printItems escape rest

/-- Members with commas between them. -/
def printMembers (escape : Char → List Char) : List (String × Json) → List Char
  | [] => []
  | [(name, j)] => printString escape name ++ ':' :: print escape j
  | (name, j) :: rest =>
    printString escape name ++ ':' :: print escape j ++ ',' :: printMembers escape rest

end

/-- The compact text of a value in ASCII. -/
def render (j : Json) : String := String.ofList (print asciiChar j)

/-- The compact text of a value with as few escapes as possible. -/
def renderPlain (j : Json) : String := String.ofList (print plainChar j)

end Grounding.Json

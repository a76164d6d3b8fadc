/-!
# Layout of a driver's text

A driver is written line by line at a depth of indentation. A step either writes text at the current
depth or changes the depth; `Step.run` gives the text that a sequence of steps writes.
-/

namespace Grounding.Layout

/-- The indentation of one level. -/
def unit : String := "    "

def indentation : Nat → String
  | 0 => ""
  | depth + 1 => unit ++ indentation depth

/-- One line; an empty line is not indented. -/
def line (depth : Nat) (text : String) : String :=
  if text.isEmpty then "\n" else indentation depth ++ text ++ "\n"

/-! ### Docstrings -/

def doubleBackslashes : List Char → List Char
  | [] => []
  | c :: rest => if c == '\\' then '\\' :: '\\' :: doubleBackslashes rest
    else c :: doubleBackslashes rest

/-- Escapes each run of three double quotes, from the left. -/
def escapeTripleQuotes : List Char → List Char
  | '"' :: '"' :: '"' :: rest => ['\\', '"', '\\', '"', '\\', '"'] ++ escapeTripleQuotes rest
  | c :: rest => c :: escapeTripleQuotes rest
  | [] => []

/-- A text for the inside of a docstring. -/
def docText (s : List Char) : List Char := escapeTripleQuotes (doubleBackslashes s)

/-- Escapes a double quote at the end, which would otherwise join the closing ones. -/
def escapeLastQuote (s : List Char) : List Char :=
  if s.getLast? == some '"' then s.dropLast ++ ['\\', '"'] else s

/-- The delimiter of a docstring. -/
def tripleQuote : String := "\"\"\""

/-- A docstring on one line must end before this column. -/
def docstringWidth : Nat := 90

/-- A docstring: a single short text on one line, anything else line by line. -/
def docstring (depth : Nat) (texts : List String) : String :=
  let several (escaped : List (List Char)) : String :=
    line depth tripleQuote ++ String.join (escaped.map fun s => line depth (String.ofList s)) ++
      line depth tripleQuote
  match texts.map fun s => docText s.toList with
  | [s] =>
    if (indentation depth).length + s.length < docstringWidth then
      line depth (tripleQuote ++ String.ofList (escapeLastQuote s) ++ tripleQuote)
    else several [s]
  | escaped => several escaped

/-! ### Steps -/

inductive Step where
  | line (text : String)
  | lines (texts : List String)
  | blank (count : Nat)
  | docstring (texts : List String)
  /-- Writes the header of a block and enters it. -/
  | block (header : String)
  /-- Goes one level deeper. -/
  | enter
  /-- Goes back one level. -/
  | leave
deriving DecidableEq, Repr

def Step.text (depth : Nat) : Step → String
  | .line s => Layout.line depth s
  | .lines texts => String.join (texts.map (Layout.line depth))
  | .blank count => String.join (List.replicate count "\n")
  | .docstring texts => Layout.docstring depth texts
  | .block header => Layout.line depth header
  | .enter | .leave => ""

def Step.depthAfter (depth : Nat) : Step → Nat
  | .block _ | .enter => depth + 1
  | .leave => depth - 1
  | _ => depth

def run (depth : Nat) : List Step → String
  | [] => ""
  | s :: rest => s.text depth ++ run (s.depthAfter depth) rest

end Grounding.Layout

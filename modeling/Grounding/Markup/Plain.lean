import Grounding.Markup.Argument.Expression
import Grounding.Markup.Emoji
import Grounding.Markup.Style
import Grounding.Markup.Tag

/-!
# Text without markup

Without colours all that is left of markup is its text, with emoji for their names, and its rules:
only what was started may be ended, and styles and the arguments of handlers have to make sense. A
handler is a tag whose name begins with an at sign.
-/

namespace Grounding.Markup

open Text (quoted)

/-- Why a text cannot be displayed. -/
inductive MarkupError where
  /-- A tag ends a style that was not started. -/
  | unmatched (t : Tag) (position : Nat)
  /-- A tag ends the last style when there is none. -/
  | nothingToClose (position : Nat)
  /-- The arguments of a handler are refused. -/
  | badArguments (arguments parameters : List Char) (reason : Argument.Refusal)
  /-- A colour has a component that is no number. -/
  | badComponent (e : BadComponent)
deriving DecidableEq, Repr

def MarkupError.message : MarkupError → String
  | unmatched t position =>
    "closing tag '" ++ String.ofList t.source ++ "' at position " ++ toString position ++
      " doesn't match any open tag"
  | nothingToClose position =>
    "closing tag '[/]' at position " ++ toString position ++ " has nothing to close"
  | badArguments arguments parameters reason =>
    let parameters := quoted (String.ofList parameters)
    match reason with
    | .noExpression words =>
      "error parsing " ++ quoted (String.ofList arguments) ++ " in " ++ parameters ++ "; " ++ words
    | .unhashable type =>
      "error parsing " ++ parameters ++ "; unhashable type: " ++ quoted type
    | .foreign => "error parsing " ++ parameters ++ "; malformed node or string on line 1"
  | badComponent e => e.message

/-! ### Handlers -/

def Tag.isHandler (t : Tag) : Bool := t.name.head? == some '@'

/-- The arguments in the parameters of a handler: what stands in parentheses behind its name, or
nothing if there are none. Parameters of another form are arguments as a whole. -/
def handlerArguments (parameters : List Char) : List Char :=
  let s := Text.strip parameters
  match s.dropWhile fun c => Text.isWord c || c == '.' with
  | [] => ['(', ')']
  | rest@('(' :: _ :: _) =>
    if rest.getLast? == some ')' && !rest.contains '\n' then rest else s
  | _ => s

def checkHandler (t : Tag) : Except MarkupError Unit :=
  match t.parameters with
  | none | some [] => .ok ()
  | some parameters =>
    let arguments := handlerArguments parameters
    (Argument.check arguments).mapError (.badArguments arguments parameters)

/-! ### Reading -/

/-- Whether a character is a control that is never printed. -/
def isDropped (c : Char) : Bool := c.toNat ∈ [7, 8, 11, 12, 13]

/-- A text with brackets for the brackets behind a backslash. -/
def unescape : List Char → List Char
  | '\\' :: '[' :: rest => '[' :: unescape rest
  | c :: rest => c :: unescape rest
  | [] => []

/-- The text of a piece with emoji, where a backslash in front of a bracket is dropped. -/
def readText (s : List Char) : List Char := (Emoji.replace (unescape s)).filter (!isDropped ·)

/-- What has been read of a text with markup. -/
structure Reading where
  text : List Char := []
  /-- The tags that have been started and not ended, the last one first. -/
  opened : List Tag := []
  /-- The styles that were asked for. -/
  styles : List (List Char) := []

namespace Reading

def start (r : Reading) (t : Tag) : Except MarkupError Reading := do
  let name ← (Style.normalize t.name).mapError .badComponent
  let t := { t with name }
  return { r with
    opened := t :: r.opened
    styles := if t.isHandler then r.styles else r.styles ++ [t.style] }

/-- Reads a tag that ends something; its name is given without the slash. -/
def finish (r : Reading) (t : Tag) (name : List Char) (position : Nat) :
    Except MarkupError Reading := do
  let ended ←
    if name.isEmpty then
      match r.opened with
      | t :: _ => pure t
      | [] => throw (.nothingToClose position)
    else
      let name ← (Style.normalize name).mapError .badComponent
      match r.opened.find? fun o => o.name == name with
      | some t => pure t
      | none => throw (.unmatched t position)
  if ended.isHandler then checkHandler ended
  return { r with opened := r.opened.eraseP fun o => o.name == ended.name }

def add (r : Reading) : Piece → Except MarkupError Reading
  | .text s => .ok { r with text := r.text ++ readText s }
  | .tag t position =>
    match t.name with
    | '/' :: name => r.finish t (Text.strip name) position
    | _ => r.start t

end Reading

/-- A text without its markup, and the styles that it asked for. -/
structure Plain where
  text : String
  styles : List (List Char)
deriving DecidableEq, Repr

def read (s : String) : Except MarkupError Plain := do
  let r ← (pieces s.toList).foldlM Reading.add {}
  return ⟨String.ofList r.text, r.styles⟩

/-- Checks that each style of a text makes sense or none, and gives the text. -/
def Plain.display (p : Plain) : Except MarkupError String := do
  for style in p.styles do
    let _ ← (Style.read? style).mapError .badComponent
  return p.text

/-- The text without its markup. -/
def plain (s : String) : Except MarkupError String := do (← read s).display

end Grounding.Markup

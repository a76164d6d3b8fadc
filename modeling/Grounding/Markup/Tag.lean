/-!
# Tags

What is printed may carry tags in square brackets: `[dim]` starts a style, `[/dim]` ends it, and
`[/]` ends the style that was started last. Parameters stand behind an equals sign. A backslash
keeps a tag as text, and of backslashes in front of a tag every second one is kept.
-/

namespace Grounding.Markup

structure Tag where
  name : List Char
  /-- What stands behind the equals sign, if there is one. -/
  parameters : Option (List Char)
deriving DecidableEq, Repr

namespace Tag

def ofInside (inside : List Char) : Tag :=
  let (name, rest) := inside.span (· != '=')
  ⟨name, if rest.isEmpty then none else some (rest.drop 1)⟩

def source (t : Tag) : List Char :=
  '[' :: t.name ++ (t.parameters.map ('=' :: ·)).getD [] ++ [']']

/-- The style that a tag asks for: its name, and behind it its parameters. -/
def style (t : Tag) : List Char := t.name ++ (t.parameters.map (' ' :: ·)).getD []

def canStart (c : Char) : Bool := ('a' ≤ c && c ≤ 'z') || c == '#' || c == '/' || c == '@'

/-- Splits the inside of a tag from what follows the tag, where an opening bracket came before. -/
def inside? (s : List Char) : Option (List Char × List Char) :=
  match s with
  | [] => none
  | c :: rest =>
    if canStart c then
      match rest.span fun d => d != ']' && d != '[' with
      | (inside, ']' :: after) => some (c :: inside, after)
      | _ => none
    else none

end Tag

/-! ### Pieces -/

/-- A part of a text with markup. -/
inductive Piece where
  /-- A text, in which a backslash may stand in front of a bracket. -/
  | text (s : List Char)
  /-- A tag, with the number of characters in front of it. -/
  | tag (t : Tag) (position : Nat)
deriving DecidableEq, Repr

/-- The first tag of a text. -/
structure Occurrence where
  /-- What stands in front of the tag and its backslashes. -/
  before : List Char
  /-- The number of backslashes in front of the tag. -/
  backslashes : Nat
  /-- What stands between the brackets. -/
  inside : List Char
  /-- What follows the tag. -/
  after : List Char
deriving DecidableEq, Repr

/-- The occurrence with more text in front of it. -/
def Occurrence.prepend (s : List Char) (o : Occurrence) : Occurrence :=
  { o with before := s ++ o.before }

/-- The first tag of a text, in front of which some backslashes have been read. -/
def firstTag? (backslashes : Nat) : List Char → Option Occurrence
  | [] => none
  | c :: rest =>
    if c == '\\' then firstTag? (backslashes + 1) rest
    else
      match if c == '[' then Tag.inside? rest else none with
      | some (inside, after) => some ⟨[], backslashes, inside, after⟩
      | none => (firstTag? 0 rest).map (.prepend (List.replicate backslashes '\\' ++ [c]))

def textPiece (s : List Char) : List Piece := if s.isEmpty then [] else [.text s]

/-- The pieces of an occurrence that begins after some characters. -/
def Occurrence.pieces (o : Occurrence) (position : Nat) : List Piece :=
  let kept := o.backslashes / 2
  let start := position + o.before.length
  textPiece o.before ++ textPiece (List.replicate kept '\\') ++
    [if o.backslashes % 2 == 1 then .text ('[' :: o.inside ++ [']'])
      else .tag (.ofInside o.inside) (start + 2 * kept)]

/-- The characters up to the end of an occurrence. -/
def Occurrence.length (o : Occurrence) : Nat :=
  o.before.length + o.backslashes + o.inside.length + 2

/-- The pieces of a text that begins after some characters; `fuel` bounds the number of tags. -/
def piecesFrom : Nat → Nat → List Char → List Piece
  | 0, _, s => textPiece s
  | fuel + 1, position, s =>
    match firstTag? 0 s with
    | some o => o.pieces position ++ piecesFrom fuel (position + o.length) o.after
    | none => textPiece s

def pieces (s : List Char) : List Piece := piecesFrom s.length 0 s

example :
    pieces "a\\[b][/c=d]".toList =
      [.text ['a'], .text ['[', 'b', ']'], .tag ⟨['/', 'c'], some ['d']⟩ 5] := by
  decide +kernel

end Grounding.Markup

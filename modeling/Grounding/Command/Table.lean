import Grounding.Command.Columns
import Grounding.Text.Wrap

/-!
# Tables

A table has a title, a header and rows. It is drawn in boxes whose columns are as wide as their
widest cells, as far as the terminal allows. What does not fit into a cell is continued on the next
line of its row. The title is centred above the boxes and wrapped to their width.
-/

namespace Grounding

/-- A table. All rows are as long as the header. -/
structure Table where
  title : String
  header : List String
  rows : List (List String)
deriving DecidableEq, Repr

namespace Table

-- The sum of no numbers is the core library's zero, whatever else is imported beside this module.
attribute [local instance (high)] Zero.ofOfNat0

/-! ### Widths -/

/-- The cells of a row that hold no text of a column: a blank on each side. -/
def padding : Nat := 2

def rowWidths (texts : List String) : List Nat := texts.map fun s => Text.naturalWidth s.toList

/-- The widths of the columns when there is room enough. -/
def naturalWidths (t : Table) : List Nat :=
  (t.rows.foldl (fun widths row => List.zipWith max widths (rowWidths row))
    (rowWidths t.header)).map (· + padding)

/-- The lines between and around the columns. -/
def edgeCount (t : Table) : Nat := t.header.length + 1

def columnWidths (terminal : Nat) (t : Table) : List Nat :=
  let room := terminal - t.edgeCount
  Columns.fit room (t.naturalWidths.map (min room))

def width (terminal : Nat) (t : Table) : Nat := (t.columnWidths terminal).sum + t.edgeCount

/-! ### Drawing -/

/-- The lines of a cell. A column without room for text shows none. -/
def cellLines (width : Nat) (s : String) : List (List Char) :=
  if width ≤ padding then []
  else (Text.wrap .ellipsis .left (width - padding) s.toList).map fun l => ' ' :: l ++ [' ']

/-- The lines of the cells of a row, all of them as many as the tallest cell has. -/
def rowBlocks (widths : List Nat) (atBottom : Bool) (texts : List String) :
    List (List (List Char)) :=
  let blocks := List.zipWith cellLines widths texts
  let height := (blocks.map List.length).foldl max 1
  List.zipWith (fun w block =>
    let missing := List.replicate (height - block.length) (Text.blanks w)
    if atBottom then missing ++ block else block ++ missing) widths blocks

/-- The lines of cells that stand side by side, with an edge between and around them. -/
def joinBlocks (edge : Char) : List (List (List Char)) → List (List Char)
  | [] => []
  | [block] => block.map fun l => edge :: l ++ [edge]
  | block :: blocks =>
    List.zipWith (fun l others => edge :: l ++ others) block (joinBlocks edge blocks)

/-- The lines of a row. The texts of a header stand at its bottom. -/
def drawRow (widths : List Nat) (isHeader : Bool) (texts : List String) : List (List Char) :=
  joinBlocks (if isHeader then '┃' else '│') (rowBlocks widths isHeader texts)

/-- A line between rows: its left end, its stroke, its crossings and its right end. -/
def rule (widths : List Nat) (left stroke crossing right : Char) : List Char :=
  left :: [crossing].intercalate (widths.map fun w => List.replicate w stroke) ++ [right]

def render (terminal : Nat) (t : Table) : List String :=
  let widths := t.columnWidths terminal
  let title := Text.wrap .fold .center (t.width terminal) t.title.toList
  (title ++ rule widths '┏' '━' '┳' '┓' :: drawRow widths true t.header ++
    rule widths '┡' '━' '╇' '┩' :: t.rows.flatMap (drawRow widths false) ++
    [rule widths '└' '─' '┴' '┘']).map String.ofList

end Table

end Grounding

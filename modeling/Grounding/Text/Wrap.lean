import Grounding.Text.Blank
import Grounding.Text.Parts
import Grounding.Text.Width

/-!
# Wrapping

A text is laid out in lines of a limited width. Line feeds end lines, and tabs reach to the next
stop. A line also ends before the first word that no longer fits on it; a word that is wider than a
whole line is either cut into pieces or cut short.
-/

namespace Grounding.Text

/-- What becomes of a word that is wider than a line. -/
inductive Overflow where
  /-- It is cut into pieces that fit. -/
  | fold
  /-- It is cut short, and an ellipsis takes the place of the last cell. -/
  | ellipsis
deriving DecidableEq, Repr

/-- Where the text of a line stands, and whether blanks fill the line up. -/
inductive Alignment where
  | free
  | left
  | center
deriving DecidableEq, Repr

/-! ### Breaking lines -/

/-- The distance between the stops of tabs. -/
def tabSize : Nat := 8

/-- A line with blanks for its tabs, where some of its cells are used up. -/
def expandTabs (used : Nat) : List Char → List Char
  | [] => []
  | c :: rest =>
    if c == '\t' then
      let stop := (used / tabSize + 1) * tabSize
      List.replicate (stop - used) ' ' ++ expandTabs stop rest
    else c :: expandTabs (used + charWidth c) rest

/-- The words of a line, each with the blanks that follow it. Blanks in front of the first word
belong to it, and `inWord` is false among them. -/
def wordsFrom (inWord : Bool) : List Char → List (List Char)
  | [] => []
  | [c] => [[c]]
  | c :: d :: rest =>
    let others := wordsFrom (inWord || !isBlank c) (d :: rest)
    if inWord && isBlank c && !isBlank d then [c] :: others else consFirst c others

def words (s : List Char) : List (List Char) := wordsFrom false s

/-- Cuts a text into pieces of a limited width, where some of the first one is used up. -/
def chop (limit used : Nat) : List Char → List (List Char)
  | [] => [[]]
  | c :: rest =>
    if used + charWidth c ≤ limit then consFirst c (chop limit (used + charWidth c) rest)
    else [] :: consFirst c (chop limit (charWidth c) rest)

/-- The pieces of a word that go on different lines. -/
def pieces (overflow : Overflow) (limit : Nat) (word : List Char) : List (List Char) :=
  if overflow == .fold && limit < width (stripRight word) then chop limit 0 word else [word]

/-- Puts a word on the last line, or on new ones. The last line comes apart from the others. -/
def placeWord (overflow : Overflow) (limit : Nat) (lines : List (List Char) × List Char)
    (word : List Char) : List (List Char) × List Char :=
  let (finished, line) := lines
  if width line + width (stripRight word) ≤ limit then (finished, line ++ word)
  else
    let finished := if line.isEmpty then finished else finished ++ [line]
    let added := pieces overflow limit word
    (finished ++ added.dropLast, added.getLastD [])

/-- Breaks a line before the words that do not fit. -/
def breakLine (overflow : Overflow) (limit : Nat) (s : List Char) : List (List Char) :=
  let (finished, line) := (words s).foldl (placeWord overflow limit) ([], [])
  finished ++ [line]

/-! ### Filling lines -/

/-- Drops blanks from the end of a line that has more characters than it may have cells. -/
def dropExcess (limit : Nat) (s : List Char) : List Char := s.take (max limit (stripRight s).length)

/-- The beginning of a text that fits into some cells. -/
def takeCells (cells : Nat) : List Char → List Char
  | [] => []
  | c :: rest => if charWidth c ≤ cells then c :: takeCells (cells - charWidth c) rest else []

def blanks (count : Nat) : List Char := List.replicate count ' '

def fill (cells : Nat) (s : List Char) : List Char := s ++ blanks (cells - width s)

/-- A line that is cut short if it is too wide. -/
def shorten (overflow : Overflow) (limit : Nat) (s : List Char) : List Char :=
  if width s ≤ limit then s
  else
    match overflow with
    | .fold => fill limit (takeCells limit s)
    | .ellipsis => fill (limit - 1) (takeCells (limit - 1) s) ++ ['…']

/-- A line with its text in place. -/
def align (overflow : Overflow) (alignment : Alignment) (limit : Nat) (s : List Char) :
    List Char :=
  match alignment with
  | .free => shorten overflow limit s
  | .left => fill limit (shorten overflow limit s)
  | .center =>
    let s := shorten overflow limit (stripRight s)
    fill limit (blanks ((limit - width s) / 2) ++ s)

def wrap (overflow : Overflow) (alignment : Alignment) (limit : Nat) (s : List Char) :
    List (List Char) :=
  (s.splitOn '\n').flatMap fun line =>
    (breakLine overflow limit (expandTabs 0 line)).map fun s =>
      align overflow alignment limit (dropExcess limit s)

example :
    wrap .fold .center 5 "ab cd efghijk l".toList =
      ["ab cd".toList, "efghi".toList, "jk l ".toList] := by
  decide +kernel

/-! ### Measuring -/

def isLineEnd (c : Char) : Bool :=
  let n := c.toNat
  (10 ≤ n && n ≤ 13) || (28 ≤ n && n ≤ 30) || n == 0x85 || n == 0x2028 || n == 0x2029

/-- The cells that the widest line of a text takes, without regard to tabs. -/
def naturalWidth (s : List Char) : Nat := ((s.splitOnP isLineEnd).map width).foldl max 0

example : naturalWidth "ab\nabcd\x0bc".toList = 4 := by decide +kernel

end Grounding.Text

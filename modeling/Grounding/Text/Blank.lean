/-!
# Blank characters

The white space that may surround a descriptor, a number or a truth value. The set is that of the
Unicode bidirectional classes `WS`, `B` and `S` together with the space separators, so it holds the
four information separators as well.
-/

namespace Grounding.Text

/-- White space, ASCII or not. -/
def isBlank (c : Char) : Bool :=
  let n := c.toNat
  (9 ≤ n && n ≤ 13) || (28 ≤ n && n ≤ 32) || n == 0x85 || n == 0xa0 || n == 0x1680 ||
    (0x2000 ≤ n && n ≤ 0x200a) || n == 0x2028 || n == 0x2029 || n == 0x202f || n == 0x205f ||
    n == 0x3000

/-- A blank that is no information separator: the property `White_Space`. -/
def isWhiteSpace (c : Char) : Bool := isBlank c && !(28 ≤ c.toNat && c.toNat ≤ 31)

/-- The text without the blanks at its end. -/
def stripRight (s : List Char) : List Char := (s.reverse.dropWhile isBlank).reverse

/-- The text without the blanks at either end. -/
def strip (s : List Char) : List Char := stripRight (s.dropWhile isBlank)

/-- The parts of a text between blanks. -/
def splitWords (s : List Char) : List (List Char) :=
  (s.splitOnP isBlank).filter fun word => !word.isEmpty

theorem isBlank_of_isWhitespace {c : Char} (h : c.isWhitespace = true) : isBlank c = true := by
  simp only [Char.isWhitespace, Bool.or_eq_true, decide_eq_true_eq] at h
  rcases h with ((h | h) | h) | h <;> subst h <;> rfl

theorem length_stripRight_le (s : List Char) : (stripRight s).length ≤ s.length := by
  have := (List.dropWhile_sublist (l := s.reverse) isBlank).length_le
  simpa [stripRight] using this

theorem length_strip_le (s : List Char) : (strip s).length ≤ s.length :=
  Nat.le_trans (length_stripRight_le _) (List.dropWhile_sublist isBlank).length_le

end Grounding.Text

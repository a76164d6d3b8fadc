/-!
# Brackets

Descriptors and literals nest by four kinds of bracket. `balanced` checks the kinds with a stack;
`depthAfter` only counts, and may fall below zero on a text that is not balanced.
-/

namespace Grounding.Text

/-- The four kinds of bracket. -/
inductive Bracket where
  | angle
  | square
  | curly
  | round
deriving DecidableEq, Repr

namespace Bracket

def opening : Bracket → Char
  | angle => '<'
  | square => '['
  | curly => '{'
  | round => '('

def closing : Bracket → Char
  | angle => '>'
  | square => ']'
  | curly => '}'
  | round => ')'

def ofOpening? (c : Char) : Option Bracket :=
  [angle, square, curly, round].find? fun b => b.opening == c

def ofClosing? (c : Char) : Option Bracket :=
  [angle, square, curly, round].find? fun b => b.closing == c

end Bracket

def isOpening (c : Char) : Bool := (Bracket.ofOpening? c).isSome

def isClosing (c : Char) : Bool := (Bracket.ofClosing? c).isSome

def isBracket (c : Char) : Bool := isOpening c || isClosing c

/-- Whether a text closes what it opens and also the groups of `stack`, innermost first. -/
def balancedFrom : List Bracket → List Char → Bool
  | stack, [] => stack.isEmpty
  | stack, c :: rest =>
    match Bracket.ofOpening? c with
    | some b => balancedFrom (b :: stack) rest
    | none =>
      match Bracket.ofClosing? c, stack with
      | none, _ => balancedFrom stack rest
      | some _, [] => false
      | some b, top :: below => top == b && balancedFrom below rest

/-- Whether every bracket of a text is closed by a bracket of its own kind. -/
def balanced (s : List Char) : Bool := balancedFrom [] s

/-- The balanced texts: a group holds a balanced text, and anything else is no bracket. -/
inductive Balanced : List Char → Prop
  | nil : Balanced []
  | plain {c : Char} {s : List Char} : isBracket c = false → Balanced s → Balanced (c :: s)
  | group {s t : List Char} (b : Bracket) :
      Balanced s → Balanced t → Balanced (b.opening :: s ++ b.closing :: t)

/-- The depth after one more character, whatever the kind of its bracket. -/
def stepDepth (depth : Int) (c : Char) : Int :=
  if isOpening c then depth + 1 else if isClosing c then depth - 1 else depth

/-- The depth reached at the end of a text that starts at the given depth. -/
def depthAfter (depth : Int) (s : List Char) : Int := s.foldl stepDepth depth

end Grounding.Text

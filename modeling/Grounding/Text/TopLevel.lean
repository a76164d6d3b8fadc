import Grounding.Text.Bracket
import Grounding.Text.Parts

/-!
# Separators at the top level

A separator counts only where the bracket depth is zero. `splitTopLevel` cuts a text at every such
occurrence, and `indexOfTopLevel` finds the first one. Both count the depth without regard to the
kind of bracket, so they are defined on texts that are not balanced too.
-/

namespace Grounding.Text

/--
The parts of a text between the separators at depth zero. The counter `skip` holds how many
characters of a separator are still to be passed over.
-/
def splitFrom (sep : List Char) (depth : Int) : Nat → List Char → List (List Char)
  | _, [] => [[]]
  | skip + 1, _ :: rest => splitFrom sep depth skip rest
  | 0, c :: rest =>
    if isOpening c then consFirst c (splitFrom sep (depth + 1) 0 rest)
    else if isClosing c then consFirst c (splitFrom sep (depth - 1) 0 rest)
    else if depth == 0 && sep.isPrefixOf (c :: rest) then
      [] :: splitFrom sep depth (sep.length - 1) rest
    else consFirst c (splitFrom sep depth 0 rest)

/-- Cuts a text at the occurrences of a non-empty separator outside all brackets. -/
def splitTopLevel (sep s : List Char) : List (List Char) := splitFrom sep 0 0 s

/-- No occurrence of the separator begins at depth zero, when the text starts at the given depth. -/
def Undivided (sep : List Char) (depth : Int) (s : List Char) : Prop :=
  ∀ before after, s = before ++ sep ++ after → depthAfter depth before ≠ 0

/-- The offset of the first occurrence of a separator at depth zero, starting at `depth`. -/
def offsetFrom (sep : List Char) (depth : Int) : List Char → Option Nat
  | [] => none
  | c :: rest =>
    if [c] == sep && depth == 0 then some 0
    else (offsetFrom sep (stepDepth depth c) rest).map (· + 1)

/-- A starting place before the beginning of the text. -/
inductive IndexError where
  | outOfRange
deriving DecidableEq, Repr

def IndexError.message : IndexError → String
  | .outOfRange => "string index out of range"

/--
The place of the first separator outside all brackets, at or after `start`; a separator that is not
one character is never found. A negative `start` counts from the end: the last characters are read
first, at negative places, and then the text from its beginning.
-/
def indexOfTopLevel (s sep : List Char) (start : Int) : Except IndexError (Option Int) :=
  if 0 ≤ start then
    .ok ((offsetFrom sep 0 (s.drop start.toNat)).map fun (n : Nat) => start + n)
  else if start < -s.length then
    .error .outOfRange
  else
    .ok ((offsetFrom sep 0 (s.drop (s.length - start.natAbs) ++ s)).map fun (n : Nat) => start + n)

theorem length_le_of_mem_splitFrom (sep s : List Char) :
    ∀ (depth : Int) (skip : Nat), ∀ p ∈ splitFrom sep depth skip s, p.length ≤ s.length := by
  induction s with
  | nil => intro depth skip p hp; cases skip <;> simp_all [splitFrom]
  | cons c rest ih =>
    intro depth skip p hp
    cases skip with
    | succ skip =>
      have := ih depth skip p (by simpa [splitFrom] using hp)
      simp only [List.length_cons]; omega
    | zero =>
      simp only [splitFrom] at hp
      split at hp
      · exact length_le_of_mem_consFirst (ih _ _) p hp
      · split at hp
        · exact length_le_of_mem_consFirst (ih _ _) p hp
        · split at hp
          · rcases List.mem_cons.1 hp with rfl | hp
            · simp
            · have := ih _ _ p hp
              simp only [List.length_cons]; omega
          · exact length_le_of_mem_consFirst (ih _ _) p hp

theorem length_le_of_mem_splitTopLevel {sep s p : List Char} (h : p ∈ splitTopLevel sep s) :
    p.length ≤ s.length :=
  length_le_of_mem_splitFrom sep s 0 0 p h

end Grounding.Text

/-!
# Hexadecimal digits

Numbers written to base sixteen with a fixed number of digits, for the escapes of quoted text, of
JSON strings and of paths.
-/

namespace Grounding.Text

def smallHexDigits : List Char :=
  ['0', '1', '2', '3', '4', '5', '6', '7', '8', '9', 'a', 'b', 'c', 'd', 'e', 'f']

def capitalHexDigits : List Char :=
  ['0', '1', '2', '3', '4', '5', '6', '7', '8', '9', 'A', 'B', 'C', 'D', 'E', 'F']

/-- The last `width` digits of a number to base sixteen. -/
def hexText (digits : List Char) : Nat → Nat → List Char
  | 0, _ => []
  | width + 1, n => hexText digits width (n / 16) ++ [digits.getD (n % 16) '0']

/-- The value of a hexadecimal digit, whatever its case. -/
def hexValue? (c : Char) : Option Nat :=
  (smallHexDigits.idxOf? c).or (capitalHexDigits.idxOf? c)

/-- The number written by hexadecimal digits alone. -/
def hexNumber? (s : List Char) : Option Nat :=
  s.foldl (fun n? c => do
    let n ← n?
    let d ← hexValue? c
    return 16 * n + d) (some 0)

example : hexText smallHexDigits 4 0xe9 = ['0', '0', 'e', '9'] := by decide

example : hexNumber? ['0', '0', 'E', '9'] = some 0xe9 := by decide

end Grounding.Text

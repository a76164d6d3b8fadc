import Grounding.Number.Binary64
import Grounding.Text.Blank
import Grounding.Text.Digit

/-!
# Numerals

Reading integers and floating-point numbers from free text. Blanks around a numeral are ignored,
decimal digits of every script count, and single underscores may stand between digits.
-/

namespace Grounding.Numeral

open Text

-- Powers are the core library's, whatever else is imported beside this module.
attribute [local instance (high)] instPowNat

/-- Integers with more digits than this are refused. -/
def digitLimit : Nat := 4300

/-- The wording of the refusal of an integer with too many digits. -/
def limitMessage (count : Nat) : String :=
  "Exceeds the limit (" ++ toString digitLimit ++
    " digits) for integer string conversion: value has " ++ toString count ++
    " digits; use sys.set_int_max_str_digits() to increase the limit"

/-- The wording of the refusal to write an integer that would have too many digits. -/
def writeLimitMessage : String :=
  "Exceeds the limit (" ++ toString digitLimit ++
    " digits) for integer string conversion; use sys.set_int_max_str_digits() to increase the limit"

/-- Whether an integer has no more digits than the limit. -/
def isWritable (n : Int) : Bool := n.natAbs < 10 ^ digitLimit

/-- The text with the decimal digits of other scripts replaced by the ASCII ones. -/
def toAsciiDigits (s : List Char) : List Char :=
  s.map fun c => ((decimalValue? c).map Nat.digitChar).getD c

/-- Removes the underscores between digits, and refuses all others. -/
def ungroupFrom (afterDigit : Bool) : List Char → Option (List Char)
  | [] => some []
  | '_' :: c :: rest =>
    if afterDigit && c.isDigit then (ungroupFrom true rest).map (c :: ·) else none
  | ['_'] => none
  | c :: rest => (ungroupFrom c.isDigit rest).map (c :: ·)

/-- The text between the blanks, in ASCII digits and without underscores. -/
def normalize? (s : List Char) : Option (List Char) := ungroupFrom false (toAsciiDigits (strip s))

/-- Splits off a sign; `true` stands for minus. -/
def takeSign : List Char → Bool × List Char
  | '-' :: rest => (true, rest)
  | '+' :: rest => (false, rest)
  | s => (false, s)

/-- The number written by ASCII digits. -/
def ofDigits (digits : List Char) : Nat :=
  digits.foldl (fun n d => 10 * n + (d.toNat - '0'.toNat)) 0

/-- Reads an integer: an optional sign and at least one digit, but no more than the limit. -/
def readInt? (s : String) : Option Int := do
  let (negative, digits) := takeSign (← normalize? s.toList)
  guard (!digits.isEmpty && digits.all Char.isDigit && digits.length ≤ digitLimit)
  return Binary64.signed negative (ofDigits digits)

/-- Reads the exponent after the letter `e`; nothing at all stands for zero. -/
def readExponent? : List Char → Option Int
  | [] => some 0
  | c :: rest => do
    let (negative, digits) := takeSign rest
    guard ((c == 'e' || c == 'E') && !digits.isEmpty && digits.all Char.isDigit)
    return Binary64.signed negative (ofDigits digits)

/-- Reads digits with an optional point and exponent. -/
def readDecimal? (negative : Bool) (s : List Char) : Option Binary64 := do
  let whole := s.takeWhile Char.isDigit
  let rest := s.dropWhile Char.isDigit
  let (fraction, rest) :=
    match rest with
    | '.' :: tail => (tail.takeWhile Char.isDigit, tail.dropWhile Char.isDigit)
    | _ => ([], rest)
  guard (!(whole.isEmpty && fraction.isEmpty))
  let exponent ← readExponent? rest
  return Binary64.ofDecimal negative (ofDigits (whole ++ fraction)) (exponent - fraction.length)

/-- Reads a floating-point number, one of the words for infinity, or the word for no number. -/
def readBinary64? (s : String) : Option Binary64 := do
  let (negative, rest) := takeSign (← normalize? s.toList)
  let word := String.ofList (rest.map Char.toLower)
  if word == "inf" || word == "infinity" then return .infinite negative
  if word == "nan" then return .nan
  readDecimal? negative rest

end Grounding.Numeral

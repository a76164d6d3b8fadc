import Grounding.Text.Hex
import Grounding.Text.Printable

/-!
# Quoted text

A text as one string literal on one line. It stands between apostrophes, unless it holds an
apostrophe and no double quote. The backslash, the chosen quote, line ends and tabs are escaped by
name, and every other character that is not printable by its number.
-/

namespace Grounding.Text

def quoteMark (s : List Char) : Char :=
  if s.contains '\x27' && !s.contains '"' then '"' else '\x27'

def quoteChar (mark c : Char) : List Char :=
  if c == '\\' || c == mark then ['\\', c]
  else if c == '\n' then ['\\', 'n']
  else if c == '\r' then ['\\', 'r']
  else if c == '\t' then ['\\', 't']
  else if isPrintable c then [c]
  else if c.toNat < 0x100 then ['\\', 'x'] ++ hexText smallHexDigits 2 c.toNat
  else if c.toNat < 0x10000 then ['\\', 'u'] ++ hexText smallHexDigits 4 c.toNat
  else ['\\', 'U'] ++ hexText smallHexDigits 8 c.toNat

/-- The text as a literal, quotes included. -/
def quoted (s : String) : String :=
  let mark := quoteMark s.toList
  String.ofList (mark :: s.toList.flatMap (quoteChar mark) ++ [mark])

end Grounding.Text

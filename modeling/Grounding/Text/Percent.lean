import Grounding.Text.Hex

/-!
# Percent encoding

A text as one segment of a path. Letters, digits and the four marks `_`, `.`, `-` and `~` stand for
themselves; every other octet of the UTF-8 form becomes a percent sign and two hexadecimal digits.
-/

namespace Grounding.Text

/-- Whether an octet stands for itself. -/
def isUnreserved (octet : UInt8) : Bool :=
  let c := Char.ofNat octet.toNat
  octet < 128 && (c.isAlphanum || c == '_' || c == '.' || c == '-' || c == '~')

def percentOctet (octet : UInt8) : List Char :=
  if isUnreserved octet then [Char.ofNat octet.toNat]
  else '%' :: hexText capitalHexDigits 2 octet.toNat

/-- The text as a segment of a path. -/
def percentEncode (s : String) : String :=
  String.ofList ((s.toList.flatMap String.utf8EncodeChar).flatMap percentOctet)

/-- The octets that a segment stands for; a percent sign without two digits is refused. -/
def percentOctets? : List Char → Option (List UInt8)
  | [] => some []
  | '%' :: a :: b :: rest => do
    let n ← hexNumber? [a, b]
    return UInt8.ofNat n :: (← percentOctets? rest)
  | '%' :: _ => none
  | c :: rest => (percentOctets? rest).map (String.utf8EncodeChar c ++ ·)

end Grounding.Text

import Grounding.Text.Blank
import Grounding.Text.Hex
import Grounding.Text.Printable
import Grounding.Text.Word

/-!
# Tokens of arguments

The arguments of a handler are an expression on one line. Its tokens are names, numbers, strings and
operators. Brackets among the operators match each other, though some may stay open at the end.
-/

namespace Grounding.Markup.Argument

open Text

inductive Token where
  | name (s : String)
  | number (isImaginary : Bool)
  | string
  | bytes
  | operator (s : String)
deriving DecidableEq, Repr

/-- Why a text has no tokens. -/
inductive TokenError where
  | unterminated (tripled : Bool)
  | unmatched (closing : Char)
  | mismatched (closing opening : Char)
  /-- A number that does not end where it should; the kind of its digits is given. -/
  | badNumber (kind : String)
  /-- A decimal digit where digits of another kind stand. -/
  | foreignDigit (kind : String) (c : Char)
  | leadingZeros
  | badCharacter (c : Char)
  | bytesNotAscii
deriving DecidableEq, Repr

/-- The code of a character, with at least four digits. -/
def characterCode (c : Char) : String :=
  let width := if c.toNat < 0x10000 then 4 else if c.toNat < 0x100000 then 5 else 6
  "U+" ++ String.ofList (hexText capitalHexDigits width c.toNat)

def TokenError.message : TokenError → String
  | unterminated false => "unterminated string literal (detected at line 1)"
  | unterminated true => "unterminated triple-quoted string literal (detected at line 1)"
  | unmatched closing => "unmatched '" ++ String.singleton closing ++ "'"
  | mismatched closing opening =>
    "closing parenthesis '" ++ String.singleton closing ++
      "' does not match opening parenthesis '" ++ String.singleton opening ++ "'"
  | badNumber kind => "invalid " ++ kind ++ " literal"
  | foreignDigit kind c =>
    "invalid digit '" ++ String.singleton c ++ "' in " ++ kind ++ " literal"
  | leadingZeros =>
    "leading zeros in decimal integer literals are not permitted; " ++
      "use an 0o prefix for octal integers"
  | badCharacter c =>
    if isPrintable c then
      "invalid character '" ++ String.singleton c ++ "' (" ++ characterCode c ++ ")"
    else "invalid non-printable character " ++ characterCode c
  | bytesNotAscii => "bytes can only contain ASCII literal characters"

/-! ### Numbers -/

/-- Splits off the longest beginning whose characters have a property. -/
def spanOf (p : Char → Bool) (s : List Char) : List Char × List Char :=
  (s.takeWhile p, s.dropWhile p)

/-- Splits off digits with underscores. -/
def takeDigits (isOne : Char → Bool) (s : List Char) : List Char × List Char :=
  spanOf (fun c => isOne c || c == '_') s

/-- Whether underscores stand only between digits. -/
def isGrouped (digits : List Char) : Bool :=
  digits.head? != some '_' && digits.getLast? != some '_' &&
    !(digits.zip (digits.drop 1)).contains ('_', '_')

def wordsAfterNumber : List String := ["and", "else", "for", "if", "in", "is", "or", "not"]

/-- What follows the digits of a number, which no other word may do. -/
def endNumber (kind : String) (grouped : Bool) (rest : List Char) :
    Except TokenError (List Char) :=
  let next := rest.head?.getD ' '
  if !grouped then .error (.badNumber kind)
  else if wordsAfterNumber.any fun w => w.toList.isPrefixOf rest then .ok rest
  else if next.toNat < 0x80 && isWord next then .error (.badNumber kind)
  else .ok rest

/-- Reads the digits of a number behind the letter for their base. -/
def readBased (kind : String) (isOne : Char → Bool) (s : List Char) :
    Except TokenError (List Char) :=
  let (digits, rest) := takeDigits isOne (if s.head? == some '_' then s.drop 1 else s)
  match rest.head?.filter fun c => c.isDigit && isGrouped (digits ++ ['0']) with
  | some c => .error (.foreignDigit kind c)
  | none => endNumber kind (!digits.isEmpty && isGrouped digits) rest

/-- Splits off an exponent, if there is one. -/
def takeExponent (s : List Char) : List Char × List Char :=
  match s with
  | c :: tail =>
    let unsigned := if tail.head? == some '+' || tail.head? == some '-' then tail.drop 1 else tail
    let (digits, rest) := takeDigits Char.isDigit unsigned
    if (c == 'e' || c == 'E') && (digits.head?.getD '_').isDigit then (digits, rest) else ([], s)
  | [] => ([], s)

/-- Reads a decimal number, with a fraction, an exponent and the mark of an imaginary number. -/
def readDecimal (s : List Char) : Except TokenError (List Char) :=
  let (whole, afterWhole) := takeDigits Char.isDigit s
  let (fraction, afterFraction) :=
    match afterWhole with
    | '.' :: tail => takeDigits Char.isDigit tail
    | _ => ([], afterWhole)
  let (exponent, rest) := takeExponent afterFraction
  let grouped := isGrouped whole && isGrouped fraction && isGrouped exponent
  let isReal := rest.length < afterWhole.length
  let isImaginary := rest.head? == some 'j' || rest.head? == some 'J'
  if isImaginary then endNumber "imaginary" grouped (rest.drop 1)
  else if grouped && !isReal && whole.head? == some '0' && whole.any (fun c => '1' ≤ c && c ≤ '9')
  then .error .leadingZeros
  else endNumber "decimal" grouped rest

def readNumber (s : List Char) : Except TokenError (List Char) :=
  match s with
  | '0' :: c :: rest =>
    match c.toLower with
    | 'x' => readBased "hexadecimal" (fun d => (hexValue? d).isSome) rest
    | 'o' => readBased "octal" (fun d => '0' ≤ d && d ≤ '7') rest
    | 'b' => readBased "binary" (fun d => d == '0' || d == '1') rest
    | _ => readDecimal s
  | _ => readDecimal s

def endsImaginary (s after : List Char) : Bool :=
  let last := (s.take (s.length - after.length)).getLast?
  (last == some 'j' || last == some 'J')

/-! ### Strings -/

/-- What follows the end of a string, and the characters before it. -/
def closeString (mark : List Char) : List Char → Option (List Char × List Char)
  | [] => none
  | ['\\'] => none
  | '\\' :: c :: rest => (closeString mark rest).map fun (s, after) => ('\\' :: c :: s, after)
  | c :: rest =>
    if mark.isPrefixOf (c :: rest) then some ([], (c :: rest).drop mark.length)
    else if c == '\n' && mark.length == 1 then none
    else (closeString mark rest).map fun (s, after) => (c :: s, after)

def readString (isBytes : Bool) (quote : Char) (s : List Char) :
    Except TokenError (Token × List Char) :=
  let tripled := [quote, quote, quote].isPrefixOf s
  let mark := if tripled then [quote, quote, quote] else [quote]
  match closeString mark (s.drop mark.length) with
  | some (inside, rest) =>
    if isBytes && inside.any (0x80 ≤ ·.toNat) then .error .bytesNotAscii
    else .ok (if isBytes then .bytes else .string, rest)
  | none => .error (.unterminated tripled)

/-- The letters that may stand before a string, in small letters. -/
def stringPrefixes : List String := ["r", "u", "b", "br", "rb"]

/-! ### Tokens -/

/-- The operators of more than one character, the longest first. -/
def longOperators : List String :=
  ["...", "**=", "//=", ">>=", "<<=", "**", "//", ">>", "<<", "<=", ">=", "==", "!=", "->", ":=",
    "+=", "-=", "*=", "/=", "%=", "&=", "|=", "^=", "@="]

/-- The bracket that closes another one. -/
def closing? : Char → Option Char
  | '(' => some ')'
  | '[' => some ']'
  | '\x7b' => some '\x7d'
  | _ => none

/-- The brackets that are open after a character; of the given ones the last stands first. -/
def nest (opened : List Char) (c : Char) : Except TokenError (List Char) :=
  if (closing? c).isSome then .ok (c :: opened)
  else if c == ')' || c == ']' || c == '\x7d' then
    match opened with
    | [] => .error (.unmatched c)
    | o :: rest => if closing? o == some c then .ok rest else .error (.mismatched c o)
  else .ok opened

/-- A token at the front of a text that begins with no blank, and what follows it. -/
def readToken (s : List Char) : Except TokenError (Token × List Char) :=
  match s with
  | [] => .ok (.operator "", [])
  | c :: rest =>
    if isLetter c || c == '_' then
      let (word, rest) := spanOf isWord s
      let small := String.ofList (word.map Char.toLower)
      match rest with
      | q :: _ =>
        if (q == '"' || q == '\x27') && stringPrefixes.contains small then
          readString (small.contains 'b') q rest
        else .ok (.name (String.ofList word), rest)
      | [] => .ok (.name (String.ofList word), rest)
    else if c.isDigit || (c == '.' && (rest.head?.getD ' ').isDigit) then
      (readNumber s).map fun after => (.number (endsImaginary s after), after)
    else if c == '"' || c == '\x27' then readString false c s
    else if 0x80 ≤ c.toNat then .error (.badCharacter c)
    else
      match longOperators.find? fun o => o.toList.isPrefixOf s with
      | some o => .ok (.operator o, s.drop o.length)
      | none => .ok (.operator (String.singleton c), rest)

inductive Ending where
  /-- At the end of the text, where brackets may be open, the last one first. -/
  | text (opened : List Char)
  /-- At a backslash, behind which nothing can be read. -/
  | backslash
deriving DecidableEq, Repr

/-- The tokens of a text where some brackets are open; `fuel` bounds their number. -/
def tokensFrom : Nat → List Char → List Char → Except TokenError (List Token × Ending)
  | 0, opened, _ => .ok ([], .text opened)
  | fuel + 1, opened, s => do
    match s.dropWhile isBlank with
    | [] | '#' :: _ => return ([], .text opened)
    | '\\' :: _ => return ([], .backslash)
    | c :: rest =>
      let opened ← nest opened c
      let (token, rest) ← readToken (c :: rest)
      let (tokens, ending) ← tokensFrom fuel opened rest
      return (token :: tokens, ending)

def tokens (s : List Char) : Except TokenError (List Token × Ending) :=
  tokensFrom (s.length + 1) [] s

end Grounding.Markup.Argument

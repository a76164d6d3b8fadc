import Grounding.Json.Basic
import Grounding.Number.Numeral
import Grounding.Text.Hex

/-!
# Reading JSON

The reader accepts the JSON grammar and the three words for infinity, its negative and no number.
A failure keeps the text from the offending place on, which gives the place itself.
-/

namespace Grounding.Json

open Text

/-- Why a text is no JSON document. -/
inductive Cause where
  | byteOrderMark
  | expectedValue
  | expectedName
  | expectedColon
  | expectedComma
  | unterminatedString
  | controlCharacter
  | badEscape
  | badUnicodeEscape
  | extraData
  /-- An integer with more digits than can be converted. -/
  | tooManyDigits (count : Nat)
deriving DecidableEq, Repr

/-- A cause together with the text that follows the place. -/
structure Failure where
  cause : Cause
  rest : List Char
deriving DecidableEq, Repr

/-- White space between tokens. -/
def isSpace (c : Char) : Bool := c == ' ' || c == '\t' || c == '\n' || c == '\r'

/-- The text after leading white space. -/
def skipSpace (s : List Char) : List Char := s.dropWhile isSpace

/-! ### Strings -/

/-- The character written by a backslash and a single character. -/
def escaped? : Char → Option Char
  | '"' => some '"'
  | '\\' => some '\\'
  | '/' => some '/'
  | 'b' => some '\x08'
  | 'f' => some '\x0c'
  | 'n' => some '\n'
  | 'r' => some '\r'
  | 't' => some '\t'
  | _ => none

/-- Whether a unit is the first half of a surrogate pair. -/
def isHighSurrogate (n : Nat) : Bool := 0xd800 ≤ n && n < 0xdc00

/-- Whether a unit is the second half of a surrogate pair. -/
def isLowSurrogate (n : Nat) : Bool := 0xdc00 ≤ n && n < 0xe000

/-- The character of a unit; half a surrogate pair alone becomes the replacement character. -/
def scalar (n : Nat) : Char := if n.isValidChar then Char.ofNat n else '\ufffd'

/-- The text of a sequence of units, with the surrogate pairs joined. -/
def joinUnits : List Nat → List Char
  | [] => []
  | [n] => [scalar n]
  | n :: m :: rest =>
    if isHighSurrogate n && isLowSurrogate m then
      Char.ofNat (0x10000 + (n - 0xd800) * 0x400 + (m - 0xdc00)) :: joinUnits rest
    else scalar n :: joinUnits (m :: rest)

/--
Reads the units of a string after its opening quote; `start` is the text from that quote on. A
character of the text is a unit, and so is an escape of four digits, which something must follow.
-/
def readUnits (start : List Char) : List Char → Except Failure (List Nat × List Char)
  | [] => .error ⟨.unterminatedString, start⟩
  | '"' :: rest => .ok ([], rest)
  | ['\\'] => .error ⟨.unterminatedString, start⟩
  | '\\' :: 'u' :: a :: b :: c :: d :: rest =>
    match hexNumber? [a, b, c, d], rest with
    | none, _ | _, [] => .error ⟨.badUnicodeEscape, 'u' :: a :: b :: c :: d :: rest⟩
    | some n, _ :: _ => (readUnits start rest).map fun (units, r) => (n :: units, r)
  | '\\' :: 'u' :: rest => .error ⟨.badUnicodeEscape, 'u' :: rest⟩
  | '\\' :: c :: rest =>
    match escaped? c with
    | none => .error ⟨.badEscape, '\\' :: c :: rest⟩
    | some e => (readUnits start rest).map fun (units, r) => (e.toNat :: units, r)
  | c :: rest =>
    if c.toNat < 0x20 then .error ⟨.controlCharacter, c :: rest⟩
    else (readUnits start rest).map fun (units, r) => (c.toNat :: units, r)

/-- Reads a string after its opening quote. -/
def readString (rest : List Char) : Except Failure (List Char × List Char) :=
  (readUnits ('"' :: rest) rest).map fun (units, r) => (joinUnits units, r)

/-! ### Numbers -/

/-- Which numbers may not have more digits than the limit. -/
inductive DigitRule where
  /-- Integers only. -/
  | integers
  /-- All numbers; the digits in front of the point count. -/
  | numbers
deriving DecidableEq, Repr

def DigitRule.covers (rule : DigitRule) (isInteger : Bool) : Bool := isInteger || rule == .numbers

/-- Splits off the digits at the front. -/
def takeDigits (s : List Char) : List Char × List Char :=
  (s.takeWhile Char.isDigit, s.dropWhile Char.isDigit)

/-- Splits off a point and the digits after it, if there are any. -/
def takeFraction (s : List Char) : List Char × List Char :=
  match s with
  | '.' :: tail =>
    match takeDigits tail with
    | ([], _) => ([], s)
    | (digits, rest) => (digits, rest)
  | _ => ([], s)

/-- Splits off an exponent, if there is one with at least one digit. -/
def takeExponent (s : List Char) : Option Int × List Char :=
  match s with
  | c :: tail =>
    let (negative, tail) := Numeral.takeSign tail
    match takeDigits tail with
    | ([], _) => (none, s)
    | (digits, rest) =>
      if c == 'e' || c == 'E' then
        (some (Binary64.signed negative (Numeral.ofDigits digits)), rest)
      else (none, s)
  | [] => (none, s)

variable (rule : DigitRule)

/-- Reads a number: digits without a superfluous zero, then a fraction and an exponent. -/
def readNumber (s : List Char) : Except Failure (Json × List Char) :=
  let (negative, unsigned) :=
    match s with
    | '-' :: rest => (true, rest)
    | _ => (false, s)
  let (whole, rest) :=
    match unsigned with
    | '0' :: rest => (['0'], rest)
    | _ => takeDigits unsigned
  if whole.isEmpty then .error ⟨.expectedValue, s⟩
  else
    let (fraction, rest) := takeFraction rest
    let (exponent?, rest) := takeExponent rest
    let isInteger := fraction.isEmpty && exponent?.isNone
    if rule.covers isInteger && Numeral.digitLimit < whole.length then
      .error ⟨.tooManyDigits whole.length, s⟩
    else if isInteger then .ok (.int (Binary64.signed negative (Numeral.ofDigits whole)), rest)
    else
      let digits := Numeral.ofDigits (whole ++ fraction)
      .ok (.float (.ofDecimal negative digits (exponent?.getD 0 - fraction.length)), rest)

/-! ### Values -/

/-- The words that stand for a value. -/
def words : List (List Char × Json) :=
  [("null".toList, .null), ("true".toList, .bool true), ("false".toList, .bool false),
    ("NaN".toList, .float .nan), ("Infinity".toList, .float (.infinite false)),
    ("-Infinity".toList, .float (.infinite true))]

/-- Reads a word or a number. -/
def readScalar (s : List Char) : Except Failure (Json × List Char) :=
  match words.find? fun w => w.1.isPrefixOf s with
  | some (w, j) => .ok (j, s.drop w.length)
  | none => readNumber rule s

mutual

/--
Reads a value whose nesting is at most `fuel` deep. Each level takes a character of its own, so the
length of a text is fuel enough.
-/
def readValue : Nat → List Char → Except Failure (Json × List Char)
  | 0, s => .error ⟨.expectedValue, s⟩
  | fuel + 1, s =>
    match s with
    | '"' :: rest => (readString rest).map fun (t, r) => (.string (String.ofList t), r)
    | '[' :: rest =>
      match skipSpace rest with
      | ']' :: rest => .ok (.array [], rest)
      | rest => (readItems fuel rest).map fun (items, r) => (.array items, r)
    | '\x7b' :: rest =>
      match skipSpace rest with
      | '\x7d' :: rest => .ok (.object [], rest)
      | rest => (readMembers fuel [] rest).map fun (members, r) => (.object members, r)
    | _ => readScalar rule s

/-- Reads the items of an array that has at least one, up to its closing bracket. -/
def readItems : Nat → List Char → Except Failure (List Json × List Char)
  | 0, s => .error ⟨.expectedValue, s⟩
  | fuel + 1, s => do
    let (item, rest) ← readValue fuel s
    match skipSpace rest with
    | ']' :: rest => .ok ([item], rest)
    | ',' :: rest => (readItems fuel (skipSpace rest)).map fun (items, r) => (item :: items, r)
    | rest => .error ⟨.expectedComma, rest⟩

/-- Reads the members of an object after those in `before`, up to its closing bracket. -/
def readMembers :
    Nat → List (String × Json) → List Char → Except Failure (List (String × Json) × List Char)
  | 0, _, s => .error ⟨.expectedName, s⟩
  | fuel + 1, before, s =>
    match s with
    | '"' :: rest => do
      let (name, rest) ← readString rest
      match skipSpace rest with
      | ':' :: rest =>
        let (item, rest) ← readValue fuel (skipSpace rest)
        let members := putMember (String.ofList name) item before
        match skipSpace rest with
        | '\x7d' :: rest => .ok (members, rest)
        | ',' :: rest => readMembers fuel members (skipSpace rest)
        | rest => .error ⟨.expectedComma, rest⟩
      | rest => .error ⟨.expectedColon, rest⟩
    | _ => .error ⟨.expectedName, s⟩

end

/-- Reads a whole document. -/
def parseChars (s : List Char) : Except Failure Json :=
  match s with
  | '\ufeff' :: _ => .error ⟨.byteOrderMark, s⟩
  | _ => do
    let (j, rest) ← readValue rule (2 * s.length + 2) (skipSpace s)
    match skipSpace rest with
    | [] => .ok j
    | rest => .error ⟨.extraData, rest⟩

/-! ### Errors -/

/-- Why a text is no JSON document, and where. -/
structure ParseError where
  cause : Cause
  /-- The number of characters before the place. -/
  offset : Nat
  /-- The line of the place, from one. -/
  line : Nat
  /-- The column of the place, from one. -/
  column : Nat
deriving DecidableEq, Repr

def Failure.locate (text : List Char) (f : Failure) : ParseError :=
  let before := text.take (text.length - f.rest.length)
  { cause := f.cause
    offset := before.length
    line := before.count '\n' + 1
    column := (before.reverse.takeWhile (· != '\n')).length + 1 }

def parseUnder (rule : DigitRule) (text : String) : Except ParseError Json :=
  (parseChars rule text.toList).mapError (Failure.locate text.toList)

/-- Reads a JSON document. -/
def parse (text : String) : Except ParseError Json := parseUnder .integers text

def Cause.message : Cause → String
  | byteOrderMark => "Unexpected UTF-8 BOM (decode using utf-8-sig)"
  | expectedValue => "Expecting value"
  | expectedName => "Expecting property name enclosed in double quotes"
  | expectedColon => "Expecting ':' delimiter"
  | expectedComma => "Expecting ',' delimiter"
  | unterminatedString => "Unterminated string starting at"
  | controlCharacter => "Invalid control character at"
  | badEscape => "Invalid \\escape"
  | badUnicodeEscape => "Invalid \\uXXXX escape"
  | extraData => "Extra data"
  | tooManyDigits count => Numeral.limitMessage count

/-- The wording of an error: the cause and, for a fault of the grammar, its place. -/
def ParseError.message (e : ParseError) : String :=
  match e.cause with
  | .tooManyDigits _ => e.cause.message
  | _ =>
    e.cause.message ++ ": line " ++ toString e.line ++ " column " ++ toString e.column ++
      " (char " ++ toString e.offset ++ ")"

end Grounding.Json

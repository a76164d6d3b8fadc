import Grounding.Text.Hex
import Grounding.Toml.Value

/-!
# Words of TOML

Strings, keys, numbers, dates and times. A reader takes a text and gives what it has read and the
text after it.
-/

namespace Grounding.Toml

/-- The error of a text that is not of the grammar. -/
def malformed {α : Type} : Except Error α := .error .malformed

/-! ### Space and comments -/

/-- White space within a line. -/
def isBlank (c : Char) : Bool := c == ' ' || c == '\t'

/-- White space, line ends included. -/
def isSpace (c : Char) : Bool := isBlank c || c == '\n'

/-- The text after white space within a line. -/
def skipBlanks (s : List Char) : List Char := s.dropWhile isBlank

/-- A control character other than the tab. -/
def isControl (c : Char) : Bool := (c.toNat < 0x20 || c.toNat == 0x7f) && c != '\t'

/-- The text after a comment, if there is one. -/
def skipComment (s : List Char) : Except Error (List Char) :=
  match s with
  | '#' :: rest =>
    if (rest.takeWhile (· != '\n')).any isControl then malformed
    else .ok (rest.dropWhile (· != '\n'))
  | _ => .ok s

/-- The text after white space and comments, at most as many as there are characters. -/
def skipGaps : Nat → List Char → Except Error (List Char)
  | 0, s => .ok s
  | fuel + 1, s =>
    match s.dropWhile isSpace with
    | '#' :: rest => do skipGaps fuel (← skipComment ('#' :: rest))
    | rest => .ok rest

/-! ### Strings -/

def escaped? : Char → Option Char
  | 'b' => some '\x08'
  | 't' => some '\t'
  | 'n' => some '\n'
  | 'f' => some '\x0c'
  | 'r' => some '\r'
  | '"' => some '"'
  | '\\' => some '\\'
  | _ => none

def hexChar? (digits : List Char) : Option Char := do
  let n ← Text.hexNumber? digits
  if n.isValidChar then some (Char.ofNat n) else none

/-- What is skipped inside a string after a backslash at the end of a line. -/
inductive Skipping where
  | nothing
  /-- Blanks up to the end of the line. -/
  | line
  /-- White space. -/
  | space
deriving DecidableEq

/-- Adds a character in front of what has been read. -/
def consChar (c : Char) (r : Except Error (List Char × List Char)) :
    Except Error (List Char × List Char) :=
  r.map fun (s, rest) => (c :: s, rest)

/-- Reads a basic string after its opening quotes, up to and with its closing ones. -/
def readBasic (multiline : Bool) : Skipping → List Char → Except Error (List Char × List Char)
  | _, [] => malformed
  | skipping, c :: rest =>
    if skipping == .line && isBlank c then readBasic multiline .line rest
    else if skipping == .line && c == '\n' then readBasic multiline .space rest
    else if skipping == .line then malformed
    else if skipping == .space && isSpace c then readBasic multiline .space rest
    else if c == '"' then
      if !multiline then .ok ([], rest)
      else
        match rest with
        | '"' :: '"' :: rest => .ok ([], rest)
        | rest => consChar '"' (readBasic multiline .nothing rest)
    else if c == '\\' then
      match rest with
      | 'u' :: a :: b :: c :: d :: rest =>
        match hexChar? [a, b, c, d] with
        | some c => consChar c (readBasic multiline .nothing rest)
        | none => malformed
      | 'U' :: a :: b :: c :: d :: e :: f :: g :: h :: rest =>
        match hexChar? [a, b, c, d, e, f, g, h] with
        | some c => consChar c (readBasic multiline .nothing rest)
        | none => malformed
      | e :: rest =>
        match escaped? e with
        | some c => consChar c (readBasic multiline .nothing rest)
        | none =>
          if multiline && e == '\n' then readBasic multiline .space rest
          else if multiline && isBlank e then readBasic multiline .line rest
          else malformed
      | [] => malformed
    else if isControl c && !(multiline && c == '\n') then malformed
    else consChar c (readBasic multiline .nothing rest)

/-- Reads a literal string on one line after its opening quote. -/
def readLiteral (s : List Char) : Except Error (List Char × List Char) :=
  let body := s.takeWhile (· != '\x27')
  match s.dropWhile (· != '\x27') with
  | [] => malformed
  | _ :: rest => if body.any isControl then malformed else .ok (body, rest)

/-- Reads a literal string of several lines after its opening quotes. -/
def readLongLiteral : List Char → Except Error (List Char × List Char)
  | '\x27' :: '\x27' :: '\x27' :: rest => .ok ([], rest)
  | c :: rest =>
    if isControl c && c != '\n' then malformed else consChar c (readLongLiteral rest)
  | [] => malformed

/-- The text after a line end at the beginning. -/
def skipLineEnd : List Char → List Char
  | '\n' :: rest => rest
  | s => s

/-- Adds up to two quotes that follow the closing ones. -/
def takeQuotes (mark : Char) (r : Except Error (List Char × List Char)) :
    Except Error (List Char × List Char) :=
  r.map fun (s, rest) =>
    let extra := (rest.take 2).takeWhile (· == mark)
    (s ++ extra, rest.drop extra.length)

def readString? : List Char → Option (Except Error (List Char × List Char))
  | '"' :: '"' :: '"' :: rest =>
    some (takeQuotes '"' (readBasic true .nothing (skipLineEnd rest)))
  | '"' :: rest => some (readBasic false .nothing rest)
  | '\x27' :: '\x27' :: '\x27' :: rest =>
    some (takeQuotes '\x27' (readLongLiteral (skipLineEnd rest)))
  | '\x27' :: rest => some (readLiteral rest)
  | _ => none

/-! ### Keys -/

abbrev Key := List String

/-- A character of a key without quotes. -/
def isBare (c : Char) : Bool := c.isAlphanum || c == '-' || c == '_'

def readKeyPart (s : List Char) : Except Error (String × List Char) :=
  match s with
  | '"' :: rest => (readBasic false .nothing rest).map fun (k, r) => (String.ofList k, r)
  | '\x27' :: rest => (readLiteral rest).map fun (k, r) => (String.ofList k, r)
  | _ =>
    match s.takeWhile isBare with
    | [] => malformed
    | part => .ok (String.ofList part, s.dropWhile isBare)

/-- Reads a dotted key with at most so many more parts, and the blanks after it. -/
def readKey : Nat → List Char → Except Error (Key × List Char)
  | 0, _ => malformed
  | fuel + 1, s => do
    let (part, rest) ← readKeyPart s
    match skipBlanks rest with
    | '.' :: rest => (readKey fuel (skipBlanks rest)).map fun (k, r) => (part :: k, r)
    | rest => .ok ([part], rest)

/-! ### Numbers -/

/-- Splits off digits with single underscores between them. -/
def takeGrouped (isDigit : Char → Bool) : List Char → List Char × List Char
  | '_' :: c :: rest =>
    if isDigit c then
      let (digits, rest) := takeGrouped isDigit rest
      (c :: digits, rest)
    else ([], '_' :: c :: rest)
  | c :: rest =>
    if isDigit c then
      let (digits, rest) := takeGrouped isDigit rest
      (c :: digits, rest)
    else ([], c :: rest)
  | [] => ([], [])

/-- Splits off digits that start with a digit. -/
def takeDigits (isDigit : Char → Bool) (s : List Char) : List Char × List Char :=
  if s.head?.any isDigit then takeGrouped isDigit s else ([], s)

def ofBase (base : Nat) (digits : List Char) : Nat :=
  digits.foldl (fun n d => base * n + (Text.hexValue? d).getD 0) 0

/-- The letter and the digits of the bases other than ten. -/
def bases : List (Char × Nat) := [('x', 16), ('b', 2), ('o', 8)]

/-- Reads an integer to a base other than ten. -/
def readBased? (s : List Char) : Option (Toml × List Char) := do
  let '0' :: letter :: rest := s | none
  let base ← bases.lookup letter
  let (digits, rest) := takeDigits (fun c => (Text.hexValue? c).any (· < base)) rest
  guard !digits.isEmpty
  return (.int (ofBase base digits), rest)

/-- Splits off a point with digits after it. -/
def takeFraction (s : List Char) : List Char × List Char :=
  match s with
  | '.' :: tail =>
    match takeDigits Char.isDigit tail with
    | ([], _) => ([], s)
    | (digits, rest) => (digits, rest)
  | _ => ([], s)

/-- Splits off an exponent. -/
def takeExponent (s : List Char) : Option Int × List Char :=
  match s with
  | c :: tail =>
    let (negative, tail) := Numeral.takeSign tail
    match takeDigits Char.isDigit tail with
    | ([], _) => (none, s)
    | (digits, rest) =>
      if c == 'e' || c == 'E' then
        (some (Binary64.signed negative (Numeral.ofDigits digits)), rest)
      else (none, s)
  | [] => (none, s)

/-- Reads a number to the base ten, if there is one. -/
def readDecimal? (s : List Char) : Option (Except Error (Toml × List Char)) :=
  let (negative, unsigned) := Numeral.takeSign s
  let (whole, rest) :=
    match unsigned with
    | '0' :: rest => (['0'], rest)
    | _ => takeDigits Char.isDigit unsigned
  if whole.isEmpty then none
  else
    let (fraction, rest) := takeFraction rest
    match fraction, takeExponent rest with
    | [], (none, rest) =>
      if Numeral.digitLimit < whole.length then some (.error (.tooManyDigits whole.length))
      else some (.ok (.int (Binary64.signed negative (Numeral.ofDigits whole)), rest))
    | _, (exponent?, rest) =>
      let digits := Numeral.ofDigits (whole ++ fraction)
      let exponent := exponent?.getD 0 - fraction.length
      some (.ok (.float (.ofDecimal negative digits exponent), rest))

/-- Reads one of the words for infinity and for no number. -/
def readSpecial? (s : List Char) : Option (Toml × List Char) :=
  let (negative, rest) := Numeral.takeSign s
  if "inf".toList.isPrefixOf rest then some (.float (.infinite negative), rest.drop 3)
  else if "nan".toList.isPrefixOf rest then some (.float .nan, rest.drop 3)
  else none

/-! ### Dates and times -/

/-- Reads a number of exactly so many digits between two bounds. -/
def readField? (width low high : Nat) (s : List Char) : Option (Nat × List Char) := do
  let digits := s.take width
  guard (digits.length == width && digits.all Char.isDigit)
  let n := Numeral.ofDigits digits
  guard (low ≤ n && n ≤ high)
  return (n, s.drop width)

def after? (c : Char) : List Char → Option (List Char)
  | d :: rest => if c == d then some rest else none
  | [] => none

def isLeapYear (year : Nat) : Bool := year % 4 == 0 && (year % 100 != 0 || year % 400 == 0)

def daysOfMonth (year month : Nat) : Nat :=
  if month == 2 then if isLeapYear year then 29 else 28
  else if month == 4 || month == 6 || month == 9 || month == 11 then 30
  else 31

/-- The text after a time of day. -/
def skipTime? (s : List Char) : Option (List Char) := do
  let (_, s) ← readField? 2 0 23 s
  let (_, s) ← readField? 2 0 59 (← after? ':' s)
  let (_, s) ← readField? 2 0 59 (← after? ':' s)
  return (takePlain s).2
where
  /-- Splits off a fraction of a second. -/
  takePlain (s : List Char) : List Char × List Char :=
    match s with
    | '.' :: tail =>
      if tail.head?.any Char.isDigit then
        (tail.takeWhile Char.isDigit, tail.dropWhile Char.isDigit)
      else ([], s)
    | _ => ([], s)

/-- The text after an offset from universal time, if there is one. -/
def skipOffset (s : List Char) : List Char :=
  match s with
  | 'Z' :: rest | 'z' :: rest => rest
  | c :: rest =>
    let after := do
      guard (c == '+' || c == '-')
      let (_, s) ← readField? 2 0 23 rest
      let (_, s) ← readField? 2 0 59 (← after? ':' s)
      return s
    after.getD s
  | [] => s

/-- A date or time that is the text up to the given rest. -/
def momentUpTo (kind : TomlMoment) (s rest : List Char) : Toml :=
  .moment kind (String.ofList (s.take (s.length - rest.length)))

/-- Reads a date, perhaps with a time of day; the date must be in the calendar. -/
def readDate? (s : List Char) : Option (Except Error (Toml × List Char)) := do
  let (year, rest) ← readField? 4 0 9999 s
  let (month, rest) ← readField? 2 1 12 (← after? '-' rest)
  let (day, rest) ← readField? 2 1 31 (← after? '-' rest)
  if year == 0 || daysOfMonth year month < day then return malformed
  let timed :=
    match rest with
    | c :: tail => if c == 'T' || c == 't' || c == ' ' then skipTime? tail else none
    | [] => none
  match timed with
  | some rest =>
    let rest := skipOffset rest
    return .ok (momentUpTo .dateTime s rest, rest)
  | none => return .ok (momentUpTo .date s rest, rest)

def readTime? (s : List Char) : Option (Toml × List Char) :=
  (skipTime? s).map fun rest => (momentUpTo .time s rest, rest)

end Grounding.Toml

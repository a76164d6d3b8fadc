import Grounding.Markup.EmojiTable
import Grounding.Text.Blank
import Grounding.Text.Hex
import Grounding.Text.Lowercase

/-!
# Emoji

A name between colons stands for an emoji. A suffix of the name can ask for the plain or for the
coloured form of the character. What is no name of an emoji stays as it is.
-/

namespace Grounding.Markup

structure Emoji where
  name : List Char
  text : List Char
  /-- Whether the emoji comes in skin tones. -/
  hasTones : Bool
deriving DecidableEq, Repr

namespace Emoji

/-- The character that, with another one, stands for a region of the world. -/
def regionChar (letter : Char) : Char := Char.ofNat (0x1f1e6 + (letter.toNat - 'A'.toNat))

def ofCode (code : List Char) : List Char :=
  if code.all fun c => 'A' ≤ c && c ≤ 'Z' then code.map regionChar
  else (code.splitOn '-').filterMap fun digits => (Text.hexNumber? digits).map Char.ofNat

def ofEntry (entry : List Char) : Emoji :=
  let (name, code) := entry.span fun c => c != '=' && c != '~'
  ⟨name, ofCode (code.drop 1), code.head? == some '~'⟩

def all : List Emoji := (Text.splitWords emojiTable.toList).map ofEntry

/-- The skin tones: the ends that they give to names. The characters for them follow each other. -/
def toneNames : List (List Char) :=
  ["light", "medium-light", "medium", "medium-dark", "dark"].map fun tone =>
    '_' :: tone.toList ++ "_skin_tone".toList

/-- The character for the first skin tone. -/
def firstTone : Nat := 0x1f3fb

/-- The mark behind a character that asks for its plain form. -/
def plainMark : Char := '\ufe0e'

/-- The mark behind a character that asks for its coloured form. -/
def colouredMark : Char := '\ufe0f'

/-- An emoji in a skin tone. The tone stands behind its first character, in place of a mark. -/
def withTone (tone : Char) : List Char → List Char
  | [] => []
  | c :: rest => c :: tone :: if rest.head? == some colouredMark then rest.drop 1 else rest

/-- The emoji of a name that ends in a skin tone. -/
def toned? (name : List Char) : Option (List Char) :=
  toneNames.zipIdx.findSome? fun (suffix, i) =>
    if suffix.isSuffixOf name then
      let base := name.take (name.length - suffix.length)
      (all.find? fun e => e.hasTones && e.name == base).map fun e =>
        withTone (Char.ofNat (firstTone + i)) e.text
    else none

def ofName? (name : List Char) : Option (List Char) :=
  let name := Text.lower name
  ((all.find? fun e => e.name == name).map Emoji.text).or (toned? name)

/-- The suffixes of names that ask for a form of the character, with the marks for it. -/
def forms : List (List Char × List Char) :=
  [("-text".toList, [plainMark]), ("-emoji".toList, [colouredMark])]

/-- What the text between two colons stands for, if it is the name of an emoji. -/
def ofBody? (body : List Char) : Option (List Char) :=
  match forms.find? fun f => f.1.isSuffixOf body with
  | some (suffix, mark) => (ofName? (body.take (body.length - suffix.length))).map (· ++ mark)
  | none => ofName? body

/-- Replaces the names in a text; after a colon, the characters since then are given. -/
def replaceFrom : Option (List Char) → List Char → List Char
  | none, [] => []
  | some body, [] => ':' :: body
  | none, c :: rest =>
    if c == ':' then replaceFrom (some []) rest else c :: replaceFrom none rest
  | some body, c :: rest =>
    if c == ':' then (ofBody? body).getD (':' :: body ++ [':']) ++ replaceFrom none rest
    else if Text.isBlank c then ':' :: body ++ c :: replaceFrom none rest
    else replaceFrom (some (body ++ [c])) rest

/-- A text with emoji for their names. -/
def replace (s : List Char) : List Char := replaceFrom none s

end Emoji

end Grounding.Markup

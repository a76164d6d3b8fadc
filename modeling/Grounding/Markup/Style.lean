import Grounding.Markup.Color
import Grounding.Text.Word

/-!
# Styles

A style is written in words: attributes, which `not` turns off, a colour for the text, a colour for
the background after `on`, and an address after `link`. Words for one thing are equivalent, so a
style has a normal form, under which its start and its end find each other.
-/

namespace Grounding.Markup

/-- The attributes of text, in the order of the normal form. -/
inductive Attribute where
  | bold
  | dim
  | italic
  | underline
  | blink
  | blink2
  | reverse
  | conceal
  | strike
  | underline2
  | frame
  | encircle
  | overline
deriving DecidableEq, Repr

namespace Attribute

def all : List Attribute :=
  [bold, dim, italic, underline, blink, blink2, reverse, conceal, strike, underline2, frame,
    encircle, overline]

def name : Attribute → String
  | bold => "bold"
  | dim => "dim"
  | italic => "italic"
  | underline => "underline"
  | blink => "blink"
  | blink2 => "blink2"
  | reverse => "reverse"
  | conceal => "conceal"
  | strike => "strike"
  | underline2 => "underline2"
  | frame => "frame"
  | encircle => "encircle"
  | overline => "overline"

def shortName? : Attribute → Option String
  | bold => some "b"
  | dim => some "d"
  | italic => some "i"
  | underline => some "u"
  | reverse => some "r"
  | conceal => some "c"
  | strike => some "s"
  | underline2 => some "uu"
  | overline => some "o"
  | blink | blink2 | frame | encircle => none

def ofName? (word : List Char) : Option Attribute :=
  let word := String.ofList word
  all.find? fun a => a.name == word || a.shortName? == some word

end Attribute

structure Style where
  /-- The attributes that are turned on or off, the last decision first. -/
  attributes : List (Attribute × Bool) := []
  color : Option (List Char) := none
  background : Option (List Char) := none
  link : Option (List Char) := none
deriving DecidableEq, Repr

namespace Style

/-- The words of the normal form. -/
def words (s : Style) : List (List Char) :=
  (Attribute.all.flatMap fun a =>
    match s.attributes.lookup a with
    | some true => [a.name.toList]
    | some false => ["not".toList, a.name.toList]
    | none => []) ++
  s.color.toList ++
  (s.background.map fun color => ["on".toList, color]).getD [] ++
  (s.link.map fun address => ["link".toList, address]).getD []

def normalForm (s : Style) : List Char :=
  if s.words.isEmpty then "none".toList else [' '].intercalate s.words

/-- Adds a word that stands alone: an attribute or the colour of the text. -/
def addWord? (s : Style) (word : List Char) : Except BadComponent (Option Style) := do
  match Attribute.ofName? (Text.lower word) with
  | some a => return some { s with attributes := (a, true) :: s.attributes }
  | none => return (← Color.read? word).map fun color => { s with color := some color }

/-- Adds a word and the word that it introduces. The result is missing if the first introduces no
other word, and within it if they are no part of a style. -/
def addPair? (s : Style) (word next : List Char) : Option (Except BadComponent (Option Style)) :=
  match String.ofList (Text.lower word) with
  | "on" =>
    some ((Color.read? next).map (·.map fun color => { s with background := some color }))
  | "not" =>
    some (.ok ((Attribute.ofName? next).map fun a =>
      { s with attributes := (a, false) :: s.attributes }))
  | "link" => some (.ok (some { s with link := some next }))
  | _ => none

/-- Reads the words of a style, where some have been read. Words of no style have no result. -/
def readWords (s : Style) : List (List Char) → Except BadComponent (Option Style)
  | [] => .ok (some s)
  | [word] => addWord? s word
  | word :: next :: rest =>
    match addPair? s word next with
    | some result => do
      match ← result with
      | some s => readWords s rest
      | none => return none
    | none => do
      match ← addWord? s word with
      | some s => readWords s (next :: rest)
      | none => return none

/-- The style that a text stands for, if it stands for one. -/
def read? (s : List Char) : Except BadComponent (Option Style) :=
  if Text.strip s == "none".toList then .ok (some {}) else readWords {} (Text.splitWords s)

/-- The normal form of a text: that of its style, or else the text in small letters. -/
def normalize (s : List Char) : Except BadComponent (List Char) := do
  match ← read? s with
  | some style => return style.normalForm
  | none => return Text.lower (Text.strip s)

end Style

end Grounding.Markup

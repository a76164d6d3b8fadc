import Grounding.Json.Parser
import Mathlib.Data.List.Forall2

/-!
# The grammar of JSON

Which texts write a value, said without a reader: white space may stand around every token, each
character of a string has a choice of forms, and a number is written by its digits. A value has many
texts, and the members of an object may be written in any order.

How many digits a number may have in front of its point is a parameter.
-/

namespace Grounding.Json

open Text

/-- A text of white space. -/
def IsBlank (s : List Char) : Prop := ∀ c ∈ s, isSpace c = true

/-! ### Strings -/

/-- The characters that are written by a backslash and a sign for them. -/
def shortForms : List (Char × Char) :=
  [('"', '"'), ('\\', '\\'), ('/', '/'), ('\x08', 'b'), ('\x0c', 'f'), ('\n', 'n'), ('\r', 'r'),
    ('\t', 't')]

/-- The escape of a sixteen-bit unit by four digits. -/
def WritesUnit (n : Nat) (s : List Char) : Prop :=
  ∃ digits, digits.length = 4 ∧ hexNumber? digits = some n ∧ s = '\\' :: 'u' :: digits

/-- The forms of a character within a string. A character beyond sixteen bits has two units. -/
inductive WritesChar : Char → List Char → Prop where
  | plain {c : Char} : 0x20 ≤ c.toNat → c ≠ '"' → c ≠ '\\' → WritesChar c [c]
  | short {c e : Char} : (c, e) ∈ shortForms → WritesChar c ['\\', e]
  | unit {c : Char} {s : List Char} : WritesUnit c.toNat s → WritesChar c s
  | pair {c : Char} {high low : List Char} : 0x10000 ≤ c.toNat →
      WritesUnit (0xd800 + (c.toNat - 0x10000) / 0x400) high →
      WritesUnit (0xdc00 + (c.toNat - 0x10000) % 0x400) low → WritesChar c (high ++ low)

def WritesString (s : String) (text : List Char) : Prop :=
  ∃ forms, List.Forall₂ WritesChar s.toList forms ∧ text = '"' :: forms.flatten ++ ['"']

/-! ### Numbers -/

def IsDigits (s : List Char) : Prop := s ≠ [] ∧ ∀ d ∈ s, d.isDigit = true

/-- Digits without a superfluous zero in front. -/
def IsWhole (s : List Char) : Prop := IsDigits s ∧ (s.head? = some '0' → s = ['0'])

/-- A point and digits, or nothing. -/
def fractionText (digits : List Char) : List Char := if digits.isEmpty then [] else '.' :: digits

inductive WritesExponent : Option Int → List Char → Prop where
  | none : WritesExponent none []
  | unsigned {mark : Char} {digits : List Char} : mark = 'e' ∨ mark = 'E' → IsDigits digits →
      WritesExponent (some (Numeral.ofDigits digits)) (mark :: digits)
  | signed {mark sign : Char} {digits : List Char} : mark = 'e' ∨ mark = 'E' →
      sign = '+' ∨ sign = '-' → IsDigits digits →
      WritesExponent (some (Binary64.signed (sign == '-') (Numeral.ofDigits digits)))
        (mark :: sign :: digits)

def numberOf (negative : Bool) (whole fraction : List Char) (exponent : Option Int) : Json :=
  if fraction.isEmpty && exponent.isNone then
    .int (Binary64.signed negative (Numeral.ofDigits whole))
  else
    .float (.ofDecimal negative (Numeral.ofDigits (whole ++ fraction))
      (exponent.getD 0 - fraction.length))

def signText (negative : Bool) : List Char := if negative then ['-'] else []

/-! ### Values -/

inductive WritesWord : Json → List Char → Prop where
  | null : WritesWord .null ['n', 'u', 'l', 'l']
  | true : WritesWord (.bool true) ['t', 'r', 'u', 'e']
  | false : WritesWord (.bool false) ['f', 'a', 'l', 's', 'e']
  | nan : WritesWord (.float .nan) ['N', 'a', 'N']
  | infinity : WritesWord (.float (.infinite false)) ['I', 'n', 'f', 'i', 'n', 'i', 't', 'y']
  | negativeInfinity :
      WritesWord (.float (.infinite true)) ['-', 'I', 'n', 'f', 'i', 'n', 'i', 't', 'y']

/-- An item of an array: a value between white space. -/
structure Item where
  before : List Char
  value : Json
  text : List Char
  after : List Char

def Item.written (i : Item) : List Char := i.before ++ i.text ++ i.after

def Item.IsSpaced (i : Item) : Prop := IsBlank i.before ∧ IsBlank i.after

/-- A member of an object: a name and an item, on both sides of the colon. -/
structure Member where
  before : List Char
  name : String
  nameText : List Char
  after : List Char
  item : Item

def Member.written (m : Member) : List Char :=
  m.before ++ m.nameText ++ m.after ++ ':' :: m.item.written

/-- The name of a member is written, and its white space is that. -/
def Member.IsSpaced (m : Member) : Prop :=
  IsBlank m.before ∧ WritesString m.name m.nameText ∧ IsBlank m.after ∧ m.item.IsSpaced

/-- The members of an object: the last of those with one name counts. -/
def membersOf (ms : List Member) : List (String × Json) :=
  ms.foldl (fun members m => putMember m.name m.item.value members) []

/-- A text that writes a value. In front of the point a number has as many digits as is allowed. -/
inductive Writes (allowed : Nat → Prop) : Json → List Char → Prop where
  | word {j : Json} {text : List Char} : WritesWord j text → Writes allowed j text
  | number {negative : Bool} {whole fraction : List Char} {exponent : Option Int}
      {exponentText : List Char} : IsWhole whole → allowed whole.length →
      (∀ d ∈ fraction, d.isDigit = true) → WritesExponent exponent exponentText →
      Writes allowed (numberOf negative whole fraction exponent)
        (signText negative ++ whole ++ fractionText fraction ++ exponentText)
  | string {s : String} {text : List Char} : WritesString s text → Writes allowed (.string s) text
  | emptyArray {blank : List Char} : IsBlank blank →
      Writes allowed (.array []) ('[' :: blank ++ [']'])
  | array {items : List Item} : items ≠ [] → (∀ i ∈ items, i.IsSpaced) →
      (∀ i ∈ items, Writes allowed i.value i.text) →
      Writes allowed (.array (items.map Item.value))
        ('[' :: [','].intercalate (items.map Item.written) ++ [']'])
  | emptyObject {blank : List Char} : IsBlank blank →
      Writes allowed (.object []) ('\x7b' :: blank ++ ['\x7d'])
  | object {members : List Member} : members ≠ [] → (∀ m ∈ members, m.IsSpaced) →
      (∀ m ∈ members, Writes allowed m.item.value m.item.text) →
      Writes allowed (.object (membersOf members))
        ('\x7b' :: [','].intercalate (members.map Member.written) ++ ['\x7d'])

/-- A document that writes a value: a text of it between white space. -/
def WritesDocument (allowed : Nat → Prop) (j : Json) (document : String) : Prop :=
  ∃ before text after, IsBlank before ∧ Writes allowed j text ∧ IsBlank after ∧
    document.toList = before ++ text ++ after

end Grounding.Json

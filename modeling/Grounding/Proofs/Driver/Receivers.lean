import Grounding.Driver.Expression
import Grounding.Proofs.Number.Decimal
import Grounding.Proofs.Text.NameCharacters

/-!
# Receivers

The single output of a step is received by a variable, whose name is the identifier of the output
with the number of the step behind it. An identifier is never empty, does not begin with a digit,
is its own identifier, and has no characters but word characters. So it is a plain name exactly if
every numeral in the name of the output is a decimal digit, and the variable is a name exactly if
the word characters of the output's name can stand in one (`identifier_usable`).

The other numerals are word characters too, and stay: a raised digit or a fraction in the name of
an output is in the variable as well, which then is no name (`identifier_unusable`).
-/

namespace Grounding

open Text

variable {c : Char} {rest : List Char}

/-! ### Plain names -/

theorem plain_iff (hc : isWord c = true) :
    (c = '_' ∨ isLetter c = true ∨ isDecimalDigit c = true) ↔
      (isNumeral c = true → isDecimalDigit c = true) := by
  constructor
  · rintro (rfl | hletter | hdecimal) hn
    · revert hn
      decide
    · rw [isLetter_eq_false_of_isNumeral hn] at hletter
      cases hletter
    · exact hdecimal
  · intro h
    rw [isWord, Bool.or_eq_true, Bool.or_eq_true, beq_iff_eq] at hc
    rcases hc with (hletter | hn) | hunderscore
    · exact .inr (.inl hletter)
    · exact .inr (.inr (h hn))
    · exact .inl hunderscore

theorem isPlainName_iff (hdigit : isDigit c = false) (hwords : ∀ d ∈ c :: rest, isWord d = true) :
    IsPlainName (c :: rest) ↔
      ∀ d ∈ c :: rest, isNumeral d = true → isDecimalDigit d = true := by
  have hhead : (c = '_' ∨ isLetter c = true) ↔
      (c = '_' ∨ isLetter c = true ∨ isDecimalDigit c = true) := by
    have hdecimal : isDecimalDigit c = false := by
      rw [isDigit, Bool.or_eq_false_iff] at hdigit
      exact hdigit.1
    simp [hdecimal]
  rw [List.forall_mem_cons] at hwords
  rw [IsPlainName, List.forall_mem_cons, hhead, plain_iff hwords.1]
  exact and_congr_right fun _ => forall₂_congr fun d hd => plain_iff (hwords.2 d hd)

theorem isPlainName_identifier_iff (name : String) :
    IsPlainName (identifier name).toList ↔
      ∀ c ∈ name.toList, isNumeral c = true → isDecimalDigit c = true := by
  have hunderscore : isNumeral '_' = true → isDecimalDigit '_' = true := by decide
  obtain ⟨c, rest, hid, hdigit⟩ := exists_head_identifier name
  have hwords : ∀ d ∈ c :: rest, isWord d = true := fun d hd =>
    isWord_of_mem_identifier (hid.symm ▸ hd)
  rw [hid, isPlainName_iff hdigit hwords, ← hid, forall_mem_identifier_iff hunderscore]
  refine forall₂_congr fun d _ => ⟨fun h hn => h ?_ hn, fun h _ => h⟩
  rw [isWord, hn, Bool.or_true, Bool.true_or]

/-! ### Names -/

theorem isName_identifier_iff (name : String) :
    IsName (identifier name).toList ↔
      (∀ c ∈ name.toList, isWord c = true → continuesName c = true) ∧
      ∀ c ∈ name.toList.head?, isWord c = true → isDigit c = false → beginsName c = true := by
  have hbegins : beginsName '_' = true := by decide
  have hcontinues := continuesName_of_beginsName hbegins
  rcases identifier_cases name with ⟨hname, hid⟩ | ⟨c, rest, hname, ⟨hdigit, hid⟩ | ⟨hdigit, hid⟩⟩
  · rw [hid, hname]
    simp [IsName, hbegins]
  · -- the underscore in front begins the name
    have hhead : isWord c = true → isDigit c = true := fun hc => by
      rwa [wordChar_of_isWord hc] at hdigit
    rw [hid, hname, IsName, ← List.map_cons, forall_mem_map_wordChar_iff hcontinues]
    simp +contextual [hbegins, hhead]
  · have hhead : isWord c = true → isDigit c = false := fun hc => by
      rwa [wordChar_of_isWord hc] at hdigit
    have hfirst := wordChar_iff (P := fun d => beginsName d = true) hbegins c
    rw [hid, hname, IsName, hfirst, forall_mem_map_wordChar_iff hcontinues, List.forall_mem_cons]
    constructor
    · rintro ⟨hc, hrest⟩
      refine ⟨⟨fun hword => continuesName_of_beginsName (hc hword), hrest⟩, ?_⟩
      rintro d hd hword -
      obtain rfl := Option.some.inj hd
      exact hc hword
    · rintro ⟨⟨-, hrest⟩, hc⟩
      exact ⟨fun hword => hc c rfl hword (hhead hword), hrest⟩

theorem isName_append_number {w : List Char} (hw : w ≠ []) (n : Nat) :
    IsName (w ++ (toString n).toList) ↔ IsName w := by
  obtain ⟨c, rest, rfl⟩ := List.exists_cons_of_ne_nil hw
  have hnumber : ∀ d ∈ (toString n).toList, continuesName d = true := by
    intro d hd
    rw [show (toString n).toList = Nat.toDigits 10 n from Nat.toList_repr] at hd
    have hdigit : isDecimalDigit d = true :=
      Numeral.isDecimalDigit_of_isDigit (Numeral.isDigit_toDigits hd)
    exact continuesName_of_isDecimalDigit hdigit
  rw [List.cons_append, IsName, IsName, List.forall_mem_append]
  simp only [and_iff_left hnumber]

/-! ### Receivers -/

theorem identifier_ne_nil (name : String) : (identifier name).toList ≠ [] := by
  obtain ⟨c, rest, hid, -⟩ := exists_head_identifier name
  rw [hid]
  exact List.cons_ne_nil c rest

theorem isName_receiver_iff (name : String) (step : Nat) :
    IsName (Variable.receiver name step).text.toList ↔
      (∀ c ∈ name.toList, isWord c = true → continuesName c = true) ∧
      ∀ c ∈ name.toList.head?, isWord c = true → isDigit c = false → beginsName c = true := by
  rw [Variable.text, String.toList_append, isName_append_number (identifier_ne_nil name),
    isName_identifier_iff]

/-- What is sure of every identifier, when it is a plain name, and when a variable named after it
is a name. -/
theorem identifier_usable (name : String) :
    identifier name ≠ "" ∧
    identifier (identifier name) = identifier name ∧
    (∃ c rest, (identifier name).toList = c :: rest ∧ isDigit c = false) ∧
    (∀ c ∈ (identifier name).toList, isWord c = true) ∧
    (IsPlainName (identifier name).toList ↔
      ∀ c ∈ name.toList, isNumeral c = true → isDecimalDigit c = true) ∧
    ∀ step, IsName (Variable.receiver name step).text.toList ↔
      (∀ c ∈ name.toList, isWord c = true → continuesName c = true) ∧
      ∀ c ∈ name.toList.head?, isWord c = true → isDigit c = false → beginsName c = true := by
  refine ⟨fun hempty => identifier_ne_nil name ?_, identifier_identifier name,
    exists_head_identifier name, fun _ => isWord_of_mem_identifier,
    isPlainName_identifier_iff name, isName_receiver_iff name⟩
  rw [hempty]
  rfl

/-- A raised digit and a fraction stay where they are, so that the identifier is not plain and the
variable is no name. A letter that no name can hold stays as well. -/
theorem identifier_unusable :
    identifier "x²" = "x²" ∧ ¬ IsPlainName (identifier "x²").toList ∧
      ¬ IsName (Variable.receiver "x²" 0).text.toList ∧
    identifier "½" = "½" ∧ ¬ IsPlainName (identifier "½").toList ∧
      ¬ IsName (Variable.receiver "½" 0).text.toList ∧
    identifier "\u037a" = "\u037a" ∧ ¬ IsName (Variable.receiver "\u037a" 0).text.toList := by
  have hplain : ∀ {name : String} (c : Char), c ∈ name.toList → isNumeral c = true →
      isDecimalDigit c = false → ¬ IsPlainName (identifier name).toList := by
    intro name c hc hn hdecimal h
    rw [(isPlainName_identifier_iff name).1 h c hc hn] at hdecimal
    cases hdecimal
  have hname : ∀ {name : String} (c : Char), c ∈ name.toList → isWord c = true →
      continuesName c = false → ¬ IsName (Variable.receiver name 0).text.toList := by
    intro name c hc hword hcontinues h
    rw [((isName_receiver_iff name 0).1 h).1 c hc hword] at hcontinues
    cases hcontinues
  refine ⟨?_, hplain '²' ?_ ?_ ?_, hname '²' ?_ ?_ ?_, ?_, hplain '½' ?_ ?_ ?_, hname '½' ?_ ?_ ?_,
    ?_, hname '\u037a' ?_ ?_ ?_⟩ <;> decide

end Grounding

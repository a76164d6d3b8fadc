import Grounding.Proofs.Json.Grammar
import Grounding.Proofs.Outcome

/-!
# Every JSON text is read

The reader reads each text that the grammar allows, up to what follows it. What follows a number
may not go on with it; after a value there is white space, a comma, a closing bracket or nothing, so
that this is always so.
-/

namespace Grounding.Json

open Text

/-! ### White space -/

theorem skipSpace_blank_append {b s : List Char} (hb : IsBlank b) :
    skipSpace (b ++ s) = skipSpace s := by
  induction b with
  | nil => rfl
  | cons c b ih =>
    have hc : isSpace c = true := hb c List.mem_cons_self
    rw [List.cons_append, skipSpace, List.dropWhile_cons_of_pos hc]
    exact ih fun d hd => hb d (List.mem_cons_of_mem _ hd)

theorem skipSpace_cons {c : Char} (hc : isSpace c = false) (s : List Char) :
    skipSpace (c :: s) = c :: s := List.dropWhile_cons_of_neg (by simp [hc])

theorem skipSpace_blank {b : List Char} (hb : IsBlank b) : skipSpace b = [] := by
  have h := skipSpace_blank_append (s := []) hb
  rwa [List.append_nil] at h

/-! ### Strings -/

theorem escaped?_of_mem {c e : Char} (h : (c, e) ∈ shortForms) : escaped? e = some c ∧ e ≠ 'u' := by
  revert h
  simp only [shortForms, List.mem_cons, List.not_mem_nil, Prod.mk.injEq, or_false]
  rintro (⟨rfl, rfl⟩ | ⟨rfl, rfl⟩ | ⟨rfl, rfl⟩ | ⟨rfl, rfl⟩ | ⟨rfl, rfl⟩ | ⟨rfl, rfl⟩ | ⟨rfl, rfl⟩ |
    ⟨rfl, rfl⟩) <;> exact ⟨rfl, by decide⟩

variable {start rest : List Char}

theorem readUnits_plain {c : Char} (hlow : 0x20 ≤ c.toNat) (hquote : c ≠ '"') (hescape : c ≠ '\\') :
    readUnits start (c :: rest) =
      (readUnits start rest).map fun (units, r) => (c.toNat :: units, r) := by
  rw [readUnits]
  · rw [if_neg (by omega)]
  · exact hquote
  · exact fun h _ => hescape h
  · exact fun _ _ _ _ _ h _ => hescape h
  · exact fun _ h _ => hescape h
  · exact fun _ _ h _ => hescape h

theorem readUnits_short {c e : Char} (h : (c, e) ∈ shortForms) :
    readUnits start ('\\' :: e :: rest) =
      (readUnits start rest).map fun (units, r) => (c.toNat :: units, r) := by
  obtain ⟨hescaped, hu⟩ := escaped?_of_mem h
  rw [readUnits]
  · rw [hescaped]
  · exact fun _ _ _ _ _ h _ => hu h
  · exact hu

theorem readUnits_unit {n : Nat} {s : List Char} (h : WritesUnit n s) (hrest : rest ≠ []) :
    readUnits start (s ++ rest) =
      (readUnits start rest).map fun (units, r) => (n :: units, r) := by
  obtain ⟨digits, hlength, hn, rfl⟩ := h
  obtain ⟨a, b, c, d, rfl⟩ : ∃ a b c d, digits = [a, b, c, d] := by
    match digits, hlength with
    | [a, b, c, d], _ => exact ⟨a, b, c, d, rfl⟩
  obtain ⟨r, rest, rfl⟩ := List.exists_cons_of_ne_nil hrest
  show readUnits start ('\\' :: 'u' :: a :: b :: c :: d :: r :: rest) = _
  conv_lhs => unfold readUnits
  simp only [hn]

/-! ### Joining units -/

theorem isValidChar_toNat (c : Char) : c.toNat.isValidChar := c.valid

theorem not_surrogate (c : Char) :
    isHighSurrogate c.toNat = false ∧ isLowSurrogate c.toNat = false := by
  have hvalid := isValidChar_toNat c
  rw [Nat.isValidChar] at hvalid
  simp only [isHighSurrogate, isLowSurrogate, Bool.and_eq_false_iff, decide_eq_false_iff_not]
  omega

theorem scalar_toNat (c : Char) : scalar c.toNat = c := by
  rw [scalar, if_pos (isValidChar_toNat c), Char.ofNat_toNat]

theorem joinUnits_toNat_cons (c : Char) (units : List Nat) :
    joinUnits (c.toNat :: units) = c :: joinUnits units := by
  cases units with
  | nil =>
    show [scalar c.toNat] = [c]
    rw [scalar_toNat]
  | cons n units =>
    rw [joinUnits, (not_surrogate c).1, Bool.false_and, if_neg Bool.false_ne_true, scalar_toNat]

theorem joinUnits_pair_cons {c : Char} (h : 0x10000 ≤ c.toNat) (units : List Nat) :
    joinUnits ((0xd800 + (c.toNat - 0x10000) / 0x400) ::
      (0xdc00 + (c.toNat - 0x10000) % 0x400) :: units) = c :: joinUnits units := by
  have hvalid := isValidChar_toNat c
  rw [Nat.isValidChar] at hvalid
  have hhigh : isHighSurrogate (0xd800 + (c.toNat - 0x10000) / 0x400) = true := by
    simp only [isHighSurrogate, Bool.and_eq_true, decide_eq_true_eq]
    omega
  have hlow : isLowSurrogate (0xdc00 + (c.toNat - 0x10000) % 0x400) = true := by
    simp only [isLowSurrogate, Bool.and_eq_true, decide_eq_true_eq]
    omega
  have hsum : 0x10000 + (0xd800 + (c.toNat - 0x10000) / 0x400 - 0xd800) * 0x400 +
      (0xdc00 + (c.toNat - 0x10000) % 0x400 - 0xdc00) = c.toNat := by omega
  rw [joinUnits, hhigh, hlow, Bool.and_self, if_pos rfl, hsum, Char.ofNat_toNat]

/-! ### Whole strings -/

theorem exists_units_of_writesChar {c : Char} {form : List Char} (h : WritesChar c form) :
    ∃ units, (∀ start rest, rest ≠ [] → readUnits start (form ++ rest) =
        (readUnits start rest).map fun (more, r) => (units ++ more, r)) ∧
      ∀ more, joinUnits (units ++ more) = c :: joinUnits more := by
  cases h with
  | plain hlow hquote hescape =>
    exact ⟨[c.toNat], fun _ _ _ => readUnits_plain hlow hquote hescape, joinUnits_toNat_cons c⟩
  | short h => exact ⟨[c.toNat], fun _ _ _ => readUnits_short h, joinUnits_toNat_cons c⟩
  | unit h => exact ⟨[c.toNat], fun _ _ hrest => readUnits_unit h hrest, joinUnits_toNat_cons c⟩
  | pair hbeyond hhigh hlow =>
    refine ⟨[_, _], fun start rest hrest => ?_, joinUnits_pair_cons hbeyond⟩
    rw [List.append_assoc, readUnits_unit hhigh (by simp [hrest]), readUnits_unit hlow hrest]
    cases readUnits start rest <;> rfl

theorem readUnits_forms {cs : List Char} {forms : List (List Char)}
    (h : List.Forall₂ WritesChar cs forms) (start rest : List Char) :
    ∃ units, readUnits start (forms.flatten ++ '"' :: rest) = .ok (units, rest) ∧
      joinUnits units = cs := by
  induction h with
  | nil => exact ⟨[], rfl, rfl⟩
  | @cons c form cs forms hc _ ih =>
    obtain ⟨more, hmore, hjoin⟩ := ih
    obtain ⟨units, hunits, hjoins⟩ := exists_units_of_writesChar hc
    refine ⟨units ++ more, ?_, by rw [hjoins, hjoin]⟩
    rw [List.flatten_cons, List.append_assoc, hunits _ _ (by simp), hmore]
    rfl

theorem readString_of_writes {s : String} {text : List Char} (h : WritesString s text) :
    ∃ inner, text = '"' :: inner ∧ ∀ rest, readString (inner ++ rest) = .ok (s.toList, rest) := by
  obtain ⟨forms, hforms, rfl⟩ := h
  refine ⟨forms.flatten ++ ['"'], rfl, fun rest => ?_⟩
  obtain ⟨units, hunits, hjoin⟩ :=
    readUnits_forms hforms ('"' :: (forms.flatten ++ '"' :: rest)) rest
  rw [List.append_assoc, List.singleton_append, readString, hunits]
  show Except.ok (joinUnits units, rest) = _
  rw [hjoin]

/-! ### Numbers -/

/-- What follows does not go on with a number. -/
def EndsNumber (rest : List Char) : Prop :=
  ∀ c, rest.head? = some c → c.isDigit = false ∧ c ≠ '.' ∧ c ≠ 'e' ∧ c ≠ 'E'

theorem takeDigits_append {ds rest : List Char} (hds : ∀ d ∈ ds, d.isDigit = true)
    (hrest : ∀ c, rest.head? = some c → c.isDigit = false) :
    takeDigits (ds ++ rest) = (ds, rest) := by
  have hnone : rest.takeWhile Char.isDigit = [] ∧ rest.dropWhile Char.isDigit = rest := by
    cases rest with
    | nil => exact ⟨rfl, rfl⟩
    | cons c rest => simp [hrest c rfl]
  rw [takeDigits, List.takeWhile_append_of_pos hds, List.dropWhile_append_of_pos hds, hnone.1,
    hnone.2, List.append_nil]

theorem takeFraction_append {ds rest : List Char} (hds : ∀ d ∈ ds, d.isDigit = true)
    (hrest : ∀ c, rest.head? = some c → c.isDigit = false ∧ c ≠ '.') :
    takeFraction (fractionText ds ++ rest) = (ds, rest) := by
  cases ds with
  | nil =>
    show takeFraction rest = ([], rest)
    cases rest with
    | nil => rfl
    | cons c rest =>
      rw [takeFraction]
      rintro tail ⟨⟩
      exact (hrest '.' rfl).2 rfl
  | cons d ds =>
    show takeFraction ('.' :: (d :: ds ++ rest)) = _
    rw [takeFraction, takeDigits_append hds fun c hc => (hrest c hc).1]

theorem takeSign_digits {ds : List Char} (hds : IsDigits ds) (rest : List Char) :
    Numeral.takeSign (ds ++ rest) = (false, ds ++ rest) := by
  obtain ⟨d, ds, rfl⟩ := List.exists_cons_of_ne_nil hds.1
  have hd : d.isDigit = true := hds.2 d List.mem_cons_self
  rw [List.cons_append, Numeral.takeSign]
  all_goals
    intro rest h
    obtain rfl := (List.cons.inj h).1
    exact absurd hd (by decide)

theorem takeExponent_append {exponent : Option Int} {text rest : List Char}
    (h : WritesExponent exponent text) (hrest : EndsNumber rest) :
    takeExponent (text ++ rest) = (exponent, rest) := by
  have hdigit : ∀ c, rest.head? = some c → c.isDigit = false := fun c hc => (hrest c hc).1
  cases h with
  | none =>
    cases rest with
    | nil => rfl
    | cons c rest =>
      obtain ⟨-, -, hsmall, hlarge⟩ := hrest c rfl
      rw [List.nil_append, takeExponent]
      split
      split
      · rfl
      · rw [if_neg (by simp [hsmall, hlarge])]
  | @unsigned mark digits hmark hdigits =>
    have hmark' : (mark == 'e' || mark == 'E') = true := by simpa using hmark
    obtain ⟨d, ds, rfl⟩ := List.exists_cons_of_ne_nil hdigits.1
    rw [List.cons_append, takeExponent, takeSign_digits hdigits]
    simp only [takeDigits_append hdigits.2 hdigit, hmark', if_true]
    rfl
  | @signed mark sign digits hmark hsign hdigits =>
    have hmark' : (mark == 'e' || mark == 'E') = true := by simpa using hmark
    obtain ⟨d, ds, rfl⟩ := List.exists_cons_of_ne_nil hdigits.1
    have hsign' : Numeral.takeSign (sign :: (d :: ds ++ rest)) =
        (sign == '-', d :: ds ++ rest) := by
      rcases hsign with rfl | rfl <;> rfl
    rw [List.cons_append, List.cons_append, takeExponent, hsign']
    simp only [takeDigits_append hdigits.2 hdigit, hmark', if_true]

def splitSign (s : List Char) : Bool × List Char :=
  match s with
  | '-' :: rest => (true, rest)
  | _ => (false, s)

/-- Splits off a zero, or all digits. -/
def splitWhole (s : List Char) : List Char × List Char :=
  match s with
  | '0' :: rest => (['0'], rest)
  | _ => takeDigits s

theorem splitSign_append {s : List Char} (hs : ∀ c, s.head? = some c → c.isDigit = true)
    (negative : Bool) : splitSign (signText negative ++ s) = (negative, s) := by
  cases negative with
  | true => rfl
  | false =>
    show splitSign s = (false, s)
    unfold splitSign
    split
    · next rest => exact absurd (hs '-' rfl) (by decide)
    · rfl

theorem splitWhole_append {whole tail : List Char} (hwhole : IsWhole whole)
    (htail : ∀ c, tail.head? = some c → c.isDigit = false) :
    splitWhole (whole ++ tail) = (whole, tail) := by
  obtain ⟨⟨hne, hdigits⟩, hzero⟩ := hwhole
  obtain ⟨d, ds, rfl⟩ := List.exists_cons_of_ne_nil hne
  unfold splitWhole
  split
  · next rest heq =>
    obtain ⟨rfl, rfl⟩ := List.cons.inj heq
    obtain rfl : ds = [] := by simpa using hzero rfl
    rfl
  · exact takeDigits_append hdigits htail

theorem readNumber_append (rule : DigitRule) (negative : Bool)
    {whole fraction text rest : List Char} {exponent : Option Int}
    (hwhole : IsWhole whole) (hlimit : whole.length ≤ Numeral.digitLimit)
    (hfraction : ∀ d ∈ fraction, d.isDigit = true) (hexponent : WritesExponent exponent text)
    (hrest : EndsNumber rest) :
    readNumber rule (signText negative ++ whole ++ fractionText fraction ++ text ++ rest) =
      .ok (numberOf negative whole fraction exponent, rest) := by
  have hafter : ∀ c, (text ++ rest).head? = some c → c.isDigit = false ∧ c ≠ '.' := by
    intro c hc
    cases hexponent with
    | none => exact ⟨(hrest c hc).1, (hrest c hc).2.1⟩
    | unsigned hmark _ | signed hmark _ _ =>
      cases hc
      rcases hmark with rfl | rfl <;> decide
  have htail : ∀ c, (fractionText fraction ++ (text ++ rest)).head? = some c →
      c.isDigit = false := by
    intro c hc
    cases fraction with
    | nil => exact (hafter c hc).1
    | cons d ds =>
      cases hc
      decide
  have hhead : ∀ c, (whole ++ (fractionText fraction ++ (text ++ rest))).head? = some c →
      c.isDigit = true := by
    intro c hc
    obtain ⟨d, ds, rfl⟩ := List.exists_cons_of_ne_nil hwhole.1.1
    cases hc
    exact hwhole.1.2 _ List.mem_cons_self
  have hempty : whole.isEmpty = false := List.isEmpty_eq_false_iff.2 hwhole.1.1
  simp only [List.append_assoc]
  unfold readNumber
  split
  next sign unsigned hsplit =>
    obtain ⟨rfl, rfl⟩ := Prod.mk.inj (hsplit.symm.trans (splitSign_append hhead negative))
    split
    next digits after hsplit =>
      obtain ⟨rfl, rfl⟩ := Prod.mk.inj (hsplit.symm.trans (splitWhole_append hwhole htail))
      simp only [hempty, Bool.false_eq_true, if_false, takeFraction_append hfraction hafter,
        takeExponent_append hexponent hrest, Nat.not_lt.2 hlimit, decide_false, Bool.and_false]
      rw [numberOf]
      split <;> rfl
/-! ### Words -/

theorem readScalar_word {rule : DigitRule} {j : Json} {text : List Char} (h : WritesWord j text)
    (rest : List Char) : readScalar rule (text ++ rest) = .ok (j, rest) := by
  cases h <;> rfl

theorem find?_words_eq_none (negative : Bool) {whole : List Char} (h : IsWhole whole)
    (rest : List Char) :
    (words.find? fun w => w.1.isPrefixOf (signText negative ++ whole ++ rest)) = none := by
  obtain ⟨d, ds, rfl⟩ := List.exists_cons_of_ne_nil h.1.1
  have hd : d.isDigit = true := h.1.2 d List.mem_cons_self
  have hne : ∀ c : Char, c.isDigit = false → (c == d) = false := by
    intro c hc
    refine beq_false_of_ne ?_
    rintro rfl
    rw [hc] at hd
    cases hd
  rw [List.find?_eq_none]
  intro w hw
  simp only [words, List.mem_cons, List.not_mem_nil, or_false] at hw
  rcases hw with rfl | rfl | rfl | rfl | rfl | rfl <;> cases negative <;>
    simp [signText, List.isPrefixOf, hne]

/-! ### Values -/

/-- What may follow a value. -/
def Follows (rest : List Char) : Prop :=
  ∀ c, rest.head? = some c → isSpace c = true ∨ c = ',' ∨ c = ']' ∨ c = '\x7d'

theorem follows_cons {c : Char} (h : c = ',' ∨ c = ']' ∨ c = '\x7d') (rest : List Char) :
    Follows (c :: rest) := by
  rintro d ⟨⟩
  exact .inr h

theorem follows_blank_append {b rest : List Char} (hb : IsBlank b) (h : Follows rest) :
    Follows (b ++ rest) := by
  cases b with
  | nil => exact h
  | cons c b =>
    rintro d ⟨⟩
    exact .inl (hb c List.mem_cons_self)

theorem follows_blank {b : List Char} (hb : IsBlank b) : Follows b := by
  rintro c hc
  exact .inl (hb c (List.mem_of_head? hc))

theorem Follows.endsNumber {rest : List Char} (h : Follows rest) : EndsNumber rest := by
  intro c hc
  rcases h c hc with hspace | rfl | rfl | rfl
  · simp only [isSpace, Bool.or_eq_true, beq_iff_eq] at hspace
    rcases hspace with ((rfl | rfl) | rfl) | rfl <;> decide
  all_goals decide

/-- The first character of a value, which is no white space, closes no array and marks no order of
bytes. -/
def StartsValue (text : List Char) : Prop :=
  ∃ c s, text = c :: s ∧ isSpace c = false ∧ c ≠ ']' ∧ c ≠ '\ufeff'

theorem isSpace_of_isDigit {c : Char} (h : c.isDigit = true) : isSpace c = false := by
  cases hc : isSpace c with
  | false => rfl
  | true =>
    simp only [isSpace, Bool.or_eq_true, beq_iff_eq] at hc
    rcases hc with ((rfl | rfl) | rfl) | rfl <;> exact absurd h (by decide)

theorem exists_head_number (negative : Bool) {whole : List Char} (h : IsWhole whole)
    (rest : List Char) : ∃ c s, signText negative ++ whole ++ rest = c :: s ∧
      (c = '-' ∨ c.isDigit = true) := by
  obtain ⟨d, ds, rfl⟩ := List.exists_cons_of_ne_nil h.1.1
  cases negative with
  | true => exact ⟨_, _, rfl, .inl rfl⟩
  | false => exact ⟨_, _, rfl, .inr (h.1.2 d List.mem_cons_self)⟩

variable {allowed : Nat → Prop} {rule : DigitRule} {j : Json} {text : List Char}

theorem Writes.startsValue (h : Writes allowed j text) : StartsValue text := by
  cases h with
  | word h => cases h <;> exact ⟨_, _, rfl, by decide, by decide, by decide⟩
  | @number negative whole fraction _ exponentText hwhole _ _ _ =>
    obtain ⟨c, s, heq, hc⟩ :=
      exists_head_number negative hwhole (fractionText fraction ++ exponentText)
    refine ⟨c, s, by rw [← heq, List.append_assoc], ?_⟩
    rcases hc with rfl | hc
    · decide
    · refine ⟨isSpace_of_isDigit hc, ?_, ?_⟩ <;>
        · rintro rfl
          exact absurd hc (by decide)
  | string h =>
    obtain ⟨forms, -, rfl⟩ := h
    exact ⟨_, _, rfl, by decide, by decide, by decide⟩
  | _ => exact ⟨_, _, rfl, by decide, by decide, by decide⟩

/-- A value is read from its text, up to what follows it. -/
def Reads (rule : DigitRule) (j : Json) (text : List Char) : Prop :=
  ∀ fuel rest, 2 * text.length ≤ fuel → Follows rest →
    readValue rule fuel (text ++ rest) = .ok (j, rest)

theorem readValue_scalar {c : Char} {s : List Char} (hquote : c ≠ '"') (harray : c ≠ '[')
    (hobject : c ≠ '\x7b') (fuel : Nat) :
    readValue rule (fuel + 1) (c :: s) = readScalar rule (c :: s) := by
  rw [readValue]
  · rintro rest heq
    exact hquote (List.cons.inj heq).1
  · rintro rest heq
    exact harray (List.cons.inj heq).1
  · rintro rest heq
    exact hobject (List.cons.inj heq).1

theorem skipSpace_written {i : Item} (hspaced : i.IsSpaced) (hstarts : StartsValue i.text)
    (rest : List Char) : skipSpace (i.written ++ rest) = i.text ++ (i.after ++ rest) := by
  obtain ⟨c, s, htext, hc, -⟩ := hstarts
  rw [Item.written, List.append_assoc, List.append_assoc, skipSpace_blank_append hspaced.1, htext]
  exact skipSpace_cons hc _

theorem skipSpace_after {b : List Char} (hb : IsBlank b) {c : Char}
    (hc : c = ':' ∨ c = ',' ∨ c = ']' ∨ c = '\x7d') (rest : List Char) :
    skipSpace (b ++ c :: rest) = c :: rest := by
  rw [skipSpace_blank_append hb, skipSpace_cons]
  rcases hc with rfl | rfl | rfl | rfl <;> decide

theorem readValue_item {i : Item} (hspaced : i.IsSpaced) (hstarts : StartsValue i.text)
    (hread : Reads rule i.value i.text) {fuel : Nat} (hfuel : 2 * i.written.length ≤ fuel)
    {c : Char} (hc : c = ',' ∨ c = ']' ∨ c = '\x7d') (rest : List Char) :
    readValue rule fuel (skipSpace (i.written ++ c :: rest)) =
      .ok (i.value, i.after ++ c :: rest) := by
  have hlength : i.text.length ≤ i.written.length := by
    simp only [Item.written, List.length_append]
    omega
  rw [skipSpace_written hspaced hstarts]
  exact hread fuel _ (by omega) (follows_blank_append hspaced.2 (follows_cons hc rest))

section

variable {fuel : Nat} {s more rest : List Char}

theorem readItems_of_close (hread : readValue rule fuel s = .ok (j, more))
    (hskip : skipSpace more = ']' :: rest) : readItems rule (fuel + 1) s = .ok ([j], rest) := by
  simp only [readItems, hread, bind, Except.bind, hskip]

theorem readItems_of_comma {after : List Char} {items : List Json}
    (hread : readValue rule fuel s = .ok (j, more)) (hskip : skipSpace more = ',' :: after)
    (hrest : readItems rule fuel (skipSpace after) = .ok (items, rest)) :
    readItems rule (fuel + 1) s = .ok (j :: items, rest) := by
  simp only [readItems, hread, bind, Except.bind, hskip, hrest]
  rfl

end

theorem readItems_append {items : List Item} (hne : items ≠ [])
    (hspaced : ∀ i ∈ items, i.IsSpaced) (hstarts : ∀ i ∈ items, StartsValue i.text)
    (hread : ∀ i ∈ items, Reads rule i.value i.text) (fuel : Nat) (rest : List Char)
    (hfuel : 2 * ([','].intercalate (items.map Item.written)).length + 1 ≤ fuel) :
    readItems rule fuel (skipSpace ([','].intercalate (items.map Item.written) ++ ']' :: rest)) =
      .ok (items.map Item.value, rest) := by
  induction items generalizing fuel with
  | nil => exact absurd rfl hne
  | cons item items ih =>
    rw [List.forall_mem_cons] at hspaced hstarts hread
    obtain ⟨fuel, rfl⟩ : ∃ n, fuel = n + 1 := ⟨fuel - 1, by omega⟩
    cases items with
    | nil =>
      simp only [List.map_cons, List.map_nil, List.intercalate_singleton] at hfuel ⊢
      exact readItems_of_close
        (readValue_item hspaced.1 hstarts.1 hread.1 (by omega) (.inr (.inl rfl)) rest)
        (skipSpace_after hspaced.1.2 (.inr (.inr (.inl rfl))) rest)
    | cons next items =>
      simp only [List.map_cons, List.intercalate_cons_cons, List.append_assoc,
        List.singleton_append, List.length_append, List.length_cons] at hfuel ih ⊢
      exact readItems_of_comma
        (readValue_item hspaced.1 hstarts.1 hread.1 (by omega) (.inl rfl) _)
        (skipSpace_after hspaced.1.2 (.inr (.inl rfl)) _)
        (ih nofun hspaced.2 hstarts.2 hread.2 fuel (by omega))

/-! ### Members of objects -/

theorem readMember {m : Member} (hspaced : m.IsSpaced) (hstarts : StartsValue m.item.text)
    (hread : Reads rule m.item.value m.item.text) (fuel : Nat)
    (hfuel : 2 * m.written.length ≤ fuel) {c : Char} (hc : c = ',' ∨ c = '\x7d')
    (rest : List Char) : ∃ s t, skipSpace (m.written ++ c :: rest) = '"' :: s ∧
      readString s = .ok (m.name.toList, t) ∧
      skipSpace t = ':' :: (m.item.written ++ c :: rest) ∧
      readValue rule fuel (skipSpace (m.item.written ++ c :: rest)) =
        .ok (m.item.value, m.item.after ++ c :: rest) ∧
      skipSpace (m.item.after ++ c :: rest) = c :: rest := by
  obtain ⟨hbefore, hname, hafter, hitem⟩ := hspaced
  obtain ⟨inner, htext, hinner⟩ := readString_of_writes hname
  have hlength : m.item.written.length ≤ m.written.length := by
    simp only [Member.written, List.length_append, List.length_cons]
    omega
  refine ⟨inner ++ (m.after ++ ':' :: (m.item.written ++ c :: rest)), _, ?_, hinner _, ?_, ?_, ?_⟩
  · simp only [Member.written, List.append_assoc, List.cons_append]
    rw [skipSpace_blank_append hbefore, htext]
    exact skipSpace_cons (by decide) _
  · exact skipSpace_after hafter (.inl rfl) _
  · exact readValue_item hitem hstarts hread (by omega) (hc.imp_right .inr) rest
  · exact skipSpace_after hitem.2 (.inr (hc.imp_right .inr)) rest

section

variable {fuel : Nat} {before : List (String × Json)} {name : List Char}
  {s t value more rest : List Char}

theorem readMembers_of_close (hname : readString s = .ok (name, t))
    (hcolon : skipSpace t = ':' :: value)
    (hread : readValue rule fuel (skipSpace value) = .ok (j, more))
    (hskip : skipSpace more = '\x7d' :: rest) :
    readMembers rule (fuel + 1) before ('"' :: s) =
      .ok (putMember (String.ofList name) j before, rest) := by
  simp only [readMembers, hname, hcolon, hread, bind, Except.bind, hskip]

theorem readMembers_of_comma {after : List Char} (hname : readString s = .ok (name, t))
    (hcolon : skipSpace t = ':' :: value)
    (hread : readValue rule fuel (skipSpace value) = .ok (j, more))
    (hskip : skipSpace more = ',' :: after) :
    readMembers rule (fuel + 1) before ('"' :: s) =
      readMembers rule fuel (putMember (String.ofList name) j before) (skipSpace after) := by
  conv_lhs => unfold readMembers
  simp only [hname, hcolon, hread, bind, Except.bind, hskip]

end

theorem readMembers_append {members : List Member} (hne : members ≠ [])
    (hspaced : ∀ m ∈ members, m.IsSpaced) (hstarts : ∀ m ∈ members, StartsValue m.item.text)
    (hread : ∀ m ∈ members, Reads rule m.item.value m.item.text) (fuel : Nat)
    (before : List (String × Json)) (rest : List Char)
    (hfuel : 2 * ([','].intercalate (members.map Member.written)).length + 1 ≤ fuel) :
    readMembers rule fuel before
        (skipSpace ([','].intercalate (members.map Member.written) ++ '\x7d' :: rest)) =
      .ok (members.foldl (fun ms m => putMember m.name m.item.value ms) before, rest) := by
  induction members generalizing fuel before with
  | nil => exact absurd rfl hne
  | cons member members ih =>
    rw [List.forall_mem_cons] at hspaced hstarts hread
    obtain ⟨fuel, rfl⟩ : ∃ n, fuel = n + 1 := ⟨fuel - 1, by omega⟩
    cases members with
    | nil =>
      simp only [List.map_cons, List.map_nil, List.intercalate_singleton] at hfuel ⊢
      obtain ⟨s, t, hs, hname, hcolon, hvalue, hskip⟩ := readMember hspaced.1 hstarts.1 hread.1
        fuel (by omega) (.inr rfl) rest
      rw [hs, readMembers_of_close hname hcolon hvalue hskip, String.ofList_toList]
      rfl
    | cons next members =>
      simp only [List.map_cons, List.intercalate_cons_cons, List.append_assoc,
        List.nil_append, List.length_append, List.length_cons, List.cons_append] at hfuel ih ⊢
      obtain ⟨s, t, hs, hname, hcolon, hvalue, hskip⟩ := readMember hspaced.1 hstarts.1 hread.1
        fuel (by omega) (.inl rfl)
        ([','].intercalate (next.written :: members.map Member.written) ++ '\x7d' :: rest)
      rw [hs, readMembers_of_comma hname hcolon hvalue hskip, String.ofList_toList]
      exact ih nofun hspaced.2 hstarts.2 hread.2 fuel _ (by omega)

/-! ### Documents -/

theorem exists_intercalate_cons (sep s : List Char) (texts : List (List Char)) :
    ∃ more, sep.intercalate (s :: texts) = s ++ more := by
  cases texts with
  | nil => exact ⟨[], by simp⟩
  | cons next texts => exact ⟨_, by rw [List.intercalate_cons_cons, List.append_assoc]⟩

theorem WritesWord.exists_head (h : WritesWord j text) :
    ∃ c s, text = c :: s ∧ c ≠ '"' ∧ c ≠ '[' ∧ c ≠ '\x7b' := by
  cases h <;> exact ⟨_, _, rfl, by decide, by decide, by decide⟩

section

variable {fuel : Nat} {s t rest : List Char} {c : Char}

theorem readValue_array {items : List Json} (hskip : skipSpace s = c :: t) (hc : c ≠ ']')
    (hitems : readItems rule fuel (c :: t) = .ok (items, rest)) :
    readValue rule (fuel + 1) ('[' :: s) = .ok (.array items, rest) := by
  rw [readValue, hskip]
  split
  · next heq => exact absurd (List.cons.inj heq).1 hc
  · rw [hitems]
    rfl

theorem readValue_object {members : List (String × Json)} (hskip : skipSpace s = '"' :: t)
    (hmembers : readMembers rule fuel [] ('"' :: t) = .ok (members, rest)) :
    readValue rule (fuel + 1) ('\x7b' :: s) = .ok (.object members, rest) := by
  rw [readValue, hskip]
  split
  · next heq => exact absurd (List.cons.inj heq).1 (by decide)
  · rw [hmembers]
    rfl

end

/-- The reader reads what the grammar writes, unless a number is too long. -/
theorem reads_of_writes (h : Writes (· ≤ Numeral.digitLimit) j text) : Reads rule j text := by
  induction h with
  | word h =>
    intro fuel rest hfuel _
    obtain ⟨c, s, rfl, hquote, harray, hobject⟩ := h.exists_head
    obtain ⟨fuel, rfl⟩ : ∃ n, fuel = n + 1 := ⟨fuel - 1, by simp at hfuel; omega⟩
    rw [← readScalar_word h rest]
    exact readValue_scalar hquote harray hobject fuel
  | @number negative whole fraction _ exponentText hwhole hlimit hfraction hexponent =>
    intro fuel rest hfuel hrest
    have hnumber := readNumber_append rule negative hwhole hlimit hfraction hexponent
      hrest.endsNumber
    have hscalar := find?_words_eq_none negative hwhole
      (fractionText fraction ++ exponentText ++ rest)
    obtain ⟨c, s, heq, hc⟩ :=
      exists_head_number negative hwhole (fractionText fraction ++ exponentText ++ rest)
    obtain ⟨fuel, rfl⟩ : ∃ n, fuel = n + 1 := by
      obtain ⟨d, ds, rfl⟩ := List.exists_cons_of_ne_nil hwhole.1.1
      simp at hfuel
      exact ⟨fuel - 1, by omega⟩
    simp only [List.append_assoc] at heq hscalar hnumber ⊢
    have hne : ∀ d : Char, d.isDigit = false → d ≠ '-' → c ≠ d := by
      rintro d hd hminus rfl
      rcases hc with rfl | hc
      · exact hminus rfl
      · rw [hd] at hc
        cases hc
    rw [heq, readValue_scalar (hne _ rfl (by decide)) (hne _ rfl (by decide))
      (hne _ rfl (by decide)), ← heq, readScalar, hscalar]
    exact hnumber
  | string h =>
    intro fuel rest hfuel _
    obtain ⟨inner, rfl, hinner⟩ := readString_of_writes h
    obtain ⟨fuel, rfl⟩ : ∃ n, fuel = n + 1 := ⟨fuel - 1, by simp at hfuel; omega⟩
    rw [List.cons_append, readValue, hinner]
    show Except.ok (Json.string (String.ofList _), rest) = _
    rw [String.ofList_toList]
  | emptyArray hblank =>
    intro fuel rest hfuel _
    obtain ⟨fuel, rfl⟩ : ∃ n, fuel = n + 1 := ⟨fuel - 1, by simp at hfuel; omega⟩
    rw [List.cons_append, List.cons_append, List.append_assoc, List.singleton_append, readValue,
      skipSpace_after hblank (.inr (.inr (.inl rfl)))]
    rfl
  | @array items hne hspaced hwrites ih =>
    intro fuel rest hfuel _
    obtain ⟨fuel, rfl⟩ : ∃ n, fuel = n + 1 := ⟨fuel - 1, by simp at hfuel; omega⟩
    have hread := readItems_append hne hspaced (fun i hi => (hwrites i hi).startsValue) ih fuel rest
      (by simp at hfuel; omega)
    obtain ⟨item, items, rfl⟩ := List.exists_cons_of_ne_nil hne
    obtain ⟨c, s, htext, -, hc, -⟩ := (hwrites item List.mem_cons_self).startsValue
    obtain ⟨more, hmore⟩ := exists_intercalate_cons [','] item.written (items.map Item.written)
    have hskip := skipSpace_written (hspaced item List.mem_cons_self)
      (hwrites item List.mem_cons_self).startsValue (more ++ ']' :: rest)
    rw [← List.append_assoc, ← hmore, ← List.map_cons, htext] at hskip
    rw [List.cons_append, List.cons_append, List.append_assoc, List.singleton_append]
    rw [hskip] at hread
    exact readValue_array hskip hc hread
  | emptyObject hblank =>
    intro fuel rest hfuel _
    obtain ⟨fuel, rfl⟩ : ∃ n, fuel = n + 1 := ⟨fuel - 1, by simp at hfuel; omega⟩
    rw [List.cons_append, List.cons_append, List.append_assoc, List.singleton_append, readValue,
      skipSpace_after hblank (.inr (.inr (.inr rfl)))]
    rfl
  | @object members hne hspaced hwrites ih =>
    intro fuel rest hfuel _
    obtain ⟨fuel, rfl⟩ : ∃ n, fuel = n + 1 := ⟨fuel - 1, by simp at hfuel; omega⟩
    have hread := readMembers_append hne hspaced (fun m hm => (hwrites m hm).startsValue) ih fuel []
      rest (by simp at hfuel; omega)
    obtain ⟨member, members, rfl⟩ := List.exists_cons_of_ne_nil hne
    obtain ⟨hbefore, hname, -⟩ := hspaced member List.mem_cons_self
    obtain ⟨inner, htext, -⟩ := readString_of_writes hname
    obtain ⟨more, hmore⟩ :=
      exists_intercalate_cons [','] member.written (members.map Member.written)
    obtain ⟨s, hskip⟩ : ∃ s, skipSpace ([','].intercalate
        ((member :: members).map Member.written) ++ '\x7d' :: rest) = '"' :: s := by
      rw [List.map_cons, hmore, Member.written, htext]
      simp only [List.append_assoc, List.cons_append]
      rw [skipSpace_blank_append hbefore]
      exact ⟨_, skipSpace_cons (by decide) _⟩
    rw [List.cons_append, List.cons_append, List.append_assoc, List.singleton_append]
    rw [hskip] at hread
    exact readValue_object hskip hread

theorem parseUnder_of_writes {document : String}
    (h : WritesDocument (· ≤ Numeral.digitLimit) j document) :
    parseUnder rule document = .ok j := by
  obtain ⟨before, text, after, hbefore, hwrites, hafter, hdocument⟩ := h
  obtain ⟨c, s, htext, hc, -, hmark⟩ := hwrites.startsValue
  have hstart : skipSpace (before ++ text ++ after) = text ++ after := by
    rw [List.append_assoc, skipSpace_blank_append hbefore, htext]
    exact skipSpace_cons hc _
  have hread : readValue rule (2 * (before ++ text ++ after).length + 2) (text ++ after) =
      .ok (j, after) := by
    refine reads_of_writes hwrites _ after ?_ (follows_blank hafter)
    simp only [List.length_append]
    omega
  have hparse : parseChars rule document.toList = .ok j := by
    rw [hdocument, parseChars]
    · rw [hstart, hread]
      simp only [bind, Except.bind, skipSpace_blank hafter]
    · intro rest heq
      cases before with
      | nil =>
        rw [htext] at heq
        exact hmark (List.cons.inj heq).1
      | cons b before =>
        obtain rfl := (List.cons.inj heq).1
        exact absurd (hbefore _ List.mem_cons_self) (by decide)
  rw [parseUnder, hparse]
  rfl

end Grounding.Json

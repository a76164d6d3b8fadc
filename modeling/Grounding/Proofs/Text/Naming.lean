import Grounding.Text.Word

/-!
# Names made of words

A name in snake case is made of word characters, as far as it is told by the characters below the
small letters. Lower case may map a character to whatever it likes, but never down to these.
-/

namespace Grounding.Text

/-! ### Lower case -/

theorem caseRuns_bounds : ∀ r ∈ caseRuns, 0x61 ≤ r.first + r.shift ∧
    (r.last + r.shift < 0xd800 ∨ 0xdfff < r.first + r.shift ∧ r.last + r.shift < 0x110000) := by
  decide +kernel

theorem lowerChar_eq_or_le (c : Char) : lowerChar c = c ∨ 0x61 ≤ (lowerChar c).toNat := by
  rw [lowerChar]
  split
  · next r hr =>
    right
    have hmatch := List.find?_some hr
    simp only [Bool.and_eq_true, decide_eq_true_eq] at hmatch
    obtain ⟨⟨hfirst, hlast⟩, -⟩ := hmatch
    obtain ⟨hlow, hvalid⟩ := caseRuns_bounds r (List.mem_of_find?_eq_some hr)
    have hchar : ((c.toNat : Int) + r.shift).toNat.isValidChar := by
      rw [Nat.isValidChar]
      omega
    have hofNat : (Char.ofNat ((c.toNat : Int) + r.shift).toNat).toNat =
        ((c.toNat : Int) + r.shift).toNat := by
      rw [Char.ofNat, dif_pos hchar]
      rfl
    rw [hofNat]
    omega
  · exact .inl rfl

theorem mem_of_mem_lowerFrom {c : Char} (hc : c.toNat < 0x61) {seen s : List Char}
    (h : c ∈ lowerFrom seen s) : c ∈ s := by
  induction s generalizing seen with
  | nil => exact h
  | cons d s ih =>
    rw [lowerFrom] at h
    rcases List.mem_append.1 h with hsmall | hrest
    · split at hsmall
      · simp only [List.mem_cons, List.not_mem_nil, or_false] at hsmall
        rcases hsmall with rfl | rfl <;> exact absurd hc (by decide)
      · split at hsmall
        · split at hsmall <;>
            · obtain rfl := List.mem_singleton.1 hsmall
              exact absurd hc (by decide)
        · obtain rfl := List.mem_singleton.1 hsmall
          rcases lowerChar_eq_or_le d with hsame | hle
          · rw [hsame]
            exact List.mem_cons_self
          · omega
    · exact List.mem_cons_of_mem _ (ih hrest)

/-! ### Snake case -/

theorem isWord_of_mem_joinWordsFrom {c : Char} {gap : Bool} {s : List Char}
    (h : c ∈ joinWordsFrom gap s) : isWord c = true := by
  induction s generalizing gap with
  | nil => cases h
  | cons d s ih =>
    have hunderscore : isWord '_' = true := by decide
    rw [joinWordsFrom] at h
    split at h
    · next hd =>
      rcases List.mem_cons.1 h with rfl | h
      · exact hd
      · exact ih h
    · split at h
      · exact ih h
      · rcases List.mem_cons.1 h with rfl | h
        · exact hunderscore
        · exact ih h

theorem isWord_of_mem_snakeCase {name : String} {c : Char} (hc : c.toNat < 0x61)
    (h : c ∈ (snakeCase name).toList) : isWord c = true := by
  rw [snakeCase, String.toList_ofList] at h
  exact isWord_of_mem_joinWordsFrom (mem_of_mem_lowerFrom hc h)

/-! ### Identifiers -/

/-- What stands in an identifier for a character of the name. -/
def wordChar (c : Char) : Char := if isWord c then c else '_'

theorem wordChar_of_isWord {c : Char} (h : isWord c = true) : wordChar c = c := if_pos h

/-- What holds of the underscore holds of what stands for a character, if it holds of the character
or this is not a word character. -/
theorem wordChar_iff {P : Char → Prop} (hunderscore : P '_') (c : Char) :
    P (wordChar c) ↔ (isWord c = true → P c) := by
  by_cases hc : isWord c = true
  · rw [wordChar_of_isWord hc]
    exact ⟨fun h _ => h, fun h => h hc⟩
  · rw [wordChar, if_neg hc]
    exact ⟨fun _ h => absurd h hc, fun _ => hunderscore⟩

theorem forall_mem_map_wordChar_iff {P : Char → Prop} (hunderscore : P '_') (s : List Char) :
    (∀ d ∈ s.map wordChar, P d) ↔ ∀ c ∈ s, isWord c = true → P c := by
  rw [List.forall_mem_map]
  exact forall₂_congr fun c _ => wordChar_iff hunderscore c

theorem identifier_cases (name : String) :
    name.toList = [] ∧ (identifier name).toList = ['_'] ∨
    ∃ c rest, name.toList = c :: rest ∧
      (isDigit (wordChar c) = true ∧
          (identifier name).toList = '_' :: wordChar c :: rest.map wordChar ∨
        isDigit (wordChar c) = false ∧
          (identifier name).toList = wordChar c :: rest.map wordChar) := by
  cases hname : name.toList with
  | nil =>
    left
    rw [identifier, hname]
    exact ⟨rfl, rfl⟩
  | cons c rest =>
    right
    have hid : identifier name = String.ofList (if isDigit (wordChar c) then
        '_' :: wordChar c :: rest.map wordChar else wordChar c :: rest.map wordChar) := by
      rw [identifier, hname]
      rfl
    refine ⟨c, rest, rfl, ?_⟩
    rw [hid, String.toList_ofList]
    cases hdigit : isDigit (wordChar c) with
    | true => exact .inl ⟨rfl, if_pos rfl⟩
    | false => exact .inr ⟨rfl, if_neg Bool.false_ne_true⟩

theorem forall_mem_identifier_iff {P : Char → Prop} (hunderscore : P '_') (name : String) :
    (∀ c ∈ (identifier name).toList, P c) ↔ ∀ c ∈ name.toList, isWord c = true → P c := by
  have hmap := forall_mem_map_wordChar_iff hunderscore
  rcases identifier_cases name with ⟨hname, hid⟩ | ⟨c, rest, hname, ⟨-, hid⟩ | ⟨-, hid⟩⟩
  · rw [hid, hname, List.forall_mem_singleton]
    exact ⟨fun _ c hc => absurd hc List.not_mem_nil, fun _ => hunderscore⟩
  · rw [hid, hname, List.forall_mem_cons, ← List.map_cons, hmap]
    exact ⟨And.right, fun h => ⟨hunderscore, h⟩⟩
  · rw [hid, hname, ← List.map_cons, hmap]

theorem isWord_of_mem_identifier {name : String} {c : Char}
    (h : c ∈ (identifier name).toList) : isWord c = true := by
  have hunderscore : isWord '_' = true := by decide
  exact (forall_mem_identifier_iff hunderscore name).2 (fun _ _ hword => hword) c h

theorem exists_head_identifier (name : String) :
    ∃ c rest, (identifier name).toList = c :: rest ∧ isDigit c = false := by
  rcases identifier_cases name with ⟨-, hid⟩ | ⟨c, rest, -, ⟨-, hid⟩ | ⟨hdigit, hid⟩⟩
  · exact ⟨'_', _, hid, by decide⟩
  · exact ⟨'_', _, hid, by decide⟩
  · exact ⟨wordChar c, _, hid, hdigit⟩

theorem identifier_eq_self {word : String} {c : Char} {rest : List Char}
    (hword : word.toList = c :: rest) (hdigit : isDigit c = false)
    (hall : ∀ d ∈ word.toList, isWord d = true) : identifier word = word := by
  have hmap : word.toList.map wordChar = word.toList := by
    rw [List.map_congr_left fun d hd => wordChar_of_isWord (hall d hd), List.map_id']
  apply String.toList_injective
  rcases identifier_cases word with ⟨hnil, -⟩ | ⟨d, more, hcons, h⟩
  · rw [hword] at hnil
    cases hnil
  · rw [hcons, List.map_cons] at hmap
    obtain ⟨rfl, rfl⟩ := List.cons.inj (hword.symm.trans hcons)
    rw [(List.cons.inj hmap).1] at h
    rcases h with ⟨htrue, -⟩ | ⟨-, hid⟩
    · rw [hdigit] at htrue
      cases htrue
    · rw [hid, (List.cons.inj hmap).2, hcons]

theorem identifier_identifier (name : String) : identifier (identifier name) = identifier name := by
  obtain ⟨c, rest, hid, hdigit⟩ := exists_head_identifier name
  exact identifier_eq_self hid hdigit fun _ => isWord_of_mem_identifier

end Grounding.Text

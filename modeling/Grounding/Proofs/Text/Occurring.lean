import Grounding.Descriptor.Parser
import Grounding.Proofs.Text.Segments

/-!
# Words that occur in a path

A word that holds no separator occurs in parts with separators between them exactly if it occurs in
one of the parts. The form of a text as a segment of a path keeps the letters as they are, and it
puts no letter in the place of another character other than the six capital ones that are digits.
So a word of other letters occurs in the segment exactly if it occurs in the text
(`infix_percentEncode_iff`).
-/

namespace Grounding

theorem occursIn_iff {part s : List Char} : occursIn part s = true ↔ part <:+: s := by
  induction s with
  | nil => rw [occursIn, List.isEmpty_iff, List.infix_nil]
  | cons c s ih =>
    rw [occursIn, Bool.or_eq_true, List.isPrefixOf_iff_prefix, ih, List.infix_cons_iff]

namespace Text

variable {w : List Char}

/-! ### Separators -/

theorem infix_append_cons_iff {sep : Char} (hw : sep ∉ w) (u v : List Char) :
    w <:+: u ++ sep :: v ↔ w <:+: u ∨ w <:+: v := by
  constructor
  · intro h
    rcases List.infix_append_iff_ne_nil.1 h with h | h | ⟨a, b, -, hb, rfl, -, hbegins⟩
    · exact .inl h
    · rcases List.infix_cons_iff.1 h with hbegins | h
      · cases w with
        | nil => exact .inr List.nil_infix
        | cons c w =>
          rw [List.cons_prefix_cons] at hbegins
          exact absurd (hbegins.1 ▸ List.mem_cons_self) hw
      · exact .inr h
    · obtain ⟨c, b, rfl⟩ := List.exists_cons_of_ne_nil hb
      rw [List.cons_prefix_cons] at hbegins
      exact absurd (List.mem_append_right a (hbegins.1 ▸ List.mem_cons_self)) hw
  · rintro (h | h)
    · exact List.infix_append_of_infix_left h
    · exact List.infix_append_of_infix_right (List.infix_cons h)

theorem infix_intercalate_iff {sep : Char} (hw : sep ∉ w) (hne : w ≠ [])
    (parts : List (List Char)) :
    w <:+: [sep].intercalate parts ↔ ∃ part ∈ parts, w <:+: part := by
  induction parts with
  | nil =>
    rw [List.intercalate_nil, List.infix_nil]
    exact ⟨fun h => absurd h hne, by simp⟩
  | cons part parts ih =>
    cases parts with
    | nil => simp
    | cons next parts =>
      rw [List.intercalate_cons_cons, List.append_assoc, List.singleton_append,
        infix_append_cons_iff hw, ih]
      exact (List.exists_mem_cons_iff _ _ _).symm

/-! ### Characters that are kept -/

/-- Texts are written character by character so that some characters stand for themselves and
appear nowhere else. -/
structure Keeps (kept : Char → Bool) (form : Char → List Char) : Prop where
  self : ∀ c, kept c = true → form c = [c]
  other : ∀ c, kept c = false → form c ≠ [] ∧ ∀ d ∈ form c, kept d = false

variable {kept : Char → Bool} {form : Char → List Char}

theorem infix_append_of_not_kept (hw : w.all kept = true) (hne : w ≠ []) {u : List Char}
    (hu : ∀ d ∈ u, kept d = false) (s : List Char) : w <:+: u ++ s ↔ w <:+: s := by
  induction u with
  | nil => rfl
  | cons d u ih =>
    rw [List.forall_mem_cons] at hu
    have hbegins : ¬ w <+: d :: (u ++ s) := by
      obtain ⟨c, w, rfl⟩ := List.exists_cons_of_ne_nil hne
      rw [List.cons_prefix_cons]
      rintro ⟨rfl, -⟩
      rw [List.all_cons, hu.1] at hw
      exact Bool.noConfusion hw
    rw [List.cons_append, List.infix_cons_iff, or_iff_right hbegins, ih hu.2]

namespace Keeps

theorem prefix_flatMap_iff (h : Keeps kept form) (hw : w.all kept = true) (s : List Char) :
    w <+: s.flatMap form ↔ w <+: s := by
  induction s generalizing w with
  | nil => rfl
  | cons c s ih =>
    cases w with
    | nil => simp
    | cons a w =>
      rw [List.all_cons, Bool.and_eq_true] at hw
      rw [List.flatMap_cons, List.cons_prefix_cons]
      cases hc : kept c with
      | true => rw [h.self c hc, List.singleton_append, List.cons_prefix_cons, ih hw.2]
      | false =>
        obtain ⟨hne, hforms⟩ := h.other c hc
        obtain ⟨d, u, hu⟩ := List.exists_cons_of_ne_nil hne
        rw [hu, List.forall_mem_cons] at hforms
        rw [hu, List.cons_append, List.cons_prefix_cons]
        -- The word begins with a kept character, and neither text does.
        have hd : a ≠ d := by
          rintro rfl
          exact Bool.noConfusion (hw.1.symm.trans hforms.1)
        have hc : a ≠ c := by
          rintro rfl
          exact Bool.noConfusion (hw.1.symm.trans hc)
        exact iff_of_false (fun h => hd h.1) (fun h => hc h.1)

theorem infix_flatMap_iff (h : Keeps kept form) (hw : w.all kept = true) (hne : w ≠ [])
    (s : List Char) : w <:+: s.flatMap form ↔ w <:+: s := by
  induction s with
  | nil => rfl
  | cons c s ih =>
    rw [List.infix_cons_iff, ← h.prefix_flatMap_iff hw, ← ih, List.flatMap_cons]
    cases hc : kept c with
    | true => rw [h.self c hc, List.singleton_append, List.infix_cons_iff]
    | false =>
      have hother := infix_append_of_not_kept hw hne (h.other c hc).2 (s.flatMap form)
      rw [hother]
      exact ⟨.inr, fun hwords => hwords.elim (fun hw => hother.1 hw.isInfix) id⟩

end Keeps

/-! ### Segments -/

/-- The form of a character in a segment. -/
def percentChar (c : Char) : List Char := (String.utf8EncodeChar c).flatMap percentOctet

def isWordLetter (c : Char) : Bool := c.isAlpha && !capitalHexDigits.contains c

theorem toList_percentEncode_eq_flatMap (s : String) :
    (percentEncode s).toList = s.toList.flatMap percentChar := by
  rw [toList_percentEncode, List.flatMap_assoc]
  rfl

theorem utf8EncodeChar_cases (c : Char) :
    (c.toNat < 128 ∧ String.utf8EncodeChar c = [UInt8.ofNat c.toNat]) ∨
      (128 ≤ c.toNat ∧ ∀ octet ∈ String.utf8EncodeChar c, 128 ≤ octet.toNat) := by
  have hnumber : c.val.toNat = c.toNat := rfl
  rw [String.utf8EncodeChar]
  simp only [hnumber]
  split
  · exact .inl ⟨by omega, rfl⟩
  · refine .inr ⟨by omega, ?_⟩
    -- Each octet of the three longer forms is a remainder and a number from 128 on.
    split
    · simp; omega
    · split
      · simp; omega
      · simp; omega

theorem isWordLetter_of_mem_percentOctet {octet : UInt8} (h : isUnreserved octet = false) {d : Char}
    (hd : d ∈ percentOctet octet) : isWordLetter d = false := by
  have hdigits : (hexText capitalHexDigits 2 octet.toNat).all (!isWordLetter ·) = true :=
    all_hexText (by decide) (by decide) 2 octet.toNat
  rw [percentOctet, if_neg (Bool.eq_false_iff.1 h), List.mem_cons] at hd
  rcases hd with rfl | hd
  · decide
  · simpa using List.all_eq_true.1 hdigits d hd

theorem percentOctet_ne_nil (octet : UInt8) : percentOctet octet ≠ [] := by
  rw [percentOctet]
  split <;> simp

theorem ofNat_toNat_octet {c : Char} (hlow : c.toNat < 128) :
    Char.ofNat (UInt8.ofNat c.toNat).toNat = c := by
  rw [UInt8.toNat_ofNat_of_lt' (by omega : c.toNat < 2 ^ 8), Char.ofNat_toNat]

theorem isUnreserved_of_isWordLetter {c : Char} (hlow : c.toNat < 128)
    (hc : isWordLetter c = true) : isUnreserved (UInt8.ofNat c.toNat) = true := by
  rw [isWordLetter, Bool.and_eq_true] at hc
  rw [isUnreserved, ofNat_toNat_octet hlow, Char.isAlphanum, hc.1]
  have hoctet : UInt8.ofNat c.toNat < 128 := by
    rw [UInt8.lt_iff_toNat_lt, UInt8.toNat_ofNat_of_lt' (by omega : c.toNat < 2 ^ 8)]
    exact hlow
  simp [hoctet]

theorem toNat_lt_of_isWordLetter {c : Char} (hc : isWordLetter c = true) : c.toNat < 128 := by
  have halpha : (c.isUpper || c.isLower) = true := (Bool.and_eq_true_iff.1 hc).1
  have hle : c.val ≤ 'z'.val := by
    rcases Bool.or_eq_true_iff.1 halpha with hupper | hlower
    · have hbetween : 'A'.val ≤ c.val ∧ c.val ≤ 'Z'.val := of_decide_eq_true hupper
      exact UInt32.le_trans hbetween.2 (by decide)
    · exact of_decide_eq_true (Bool.and_eq_true_iff.1 hlower).2
  exact Nat.lt_of_le_of_lt (UInt32.le_iff_toNat_le.1 hle) (by decide)

theorem keeps_percentChar : Keeps isWordLetter percentChar where
  self c hc := by
    have hlow := toNat_lt_of_isWordLetter hc
    rcases utf8EncodeChar_cases c with ⟨-, hoctets⟩ | ⟨hhigh, -⟩
    · rw [percentChar, hoctets, List.flatMap_singleton, percentOctet,
        if_pos (isUnreserved_of_isWordLetter hlow hc), ofNat_toNat_octet hlow]
    · omega
  other c hc := by
    constructor
    · obtain ⟨octet, octets, hoctets⟩ :=
        List.exists_cons_of_ne_nil (String.utf8EncodeChar_ne_nil (c := c))
      rw [percentChar, hoctets, List.flatMap_cons]
      exact List.append_ne_nil_of_left_ne_nil (percentOctet_ne_nil octet) _
    · intro d hd
      obtain ⟨octet, hoctet, hd⟩ := List.mem_flatMap.1 hd
      cases hunreserved : isUnreserved octet with
      | false => exact isWordLetter_of_mem_percentOctet hunreserved hd
      | true =>
        have hlow : octet.toNat < 128 := by
          rw [isUnreserved, Bool.and_eq_true, decide_eq_true_eq, UInt8.lt_iff_toNat_lt]
            at hunreserved
          exact hunreserved.1
        rw [percentOctet, if_pos hunreserved, List.mem_singleton] at hd
        rcases utf8EncodeChar_cases c with ⟨hc', hoctets⟩ | ⟨-, hhigh⟩
        · rw [hoctets, List.mem_singleton] at hoctet
          rw [hd, hoctet, ofNat_toNat_octet hc', hc]
        · have := hhigh octet hoctet
          omega

theorem infix_percentEncode_iff (hw : w.all isWordLetter = true) (hne : w ≠ []) (s : String) :
    w <:+: (percentEncode s).toList ↔ w <:+: s.toList := by
  rw [toList_percentEncode_eq_flatMap, keeps_percentChar.infix_flatMap_iff hw hne]

end Text

end Grounding

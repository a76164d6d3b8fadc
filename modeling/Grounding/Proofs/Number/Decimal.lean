import Grounding.Number.Numeral
import Grounding.Proofs.Text.Stripping
import Grounding.Text.Bracket
import Mathlib.Tactic.IntervalCases

/-!
# Integers survive being written

The decimal text of an integer holds digits and perhaps a sign in front, so nothing in it is
stripped, regrouped or replaced when it is read. If it is not too long it is read back. Whatever was
read as an integer is not too long.
-/

namespace Grounding.Numeral

open Text

def IsWritten (c : Char) : Prop := c = '-' ∨ ∃ d, d < 10 ∧ c = Nat.digitChar d

theorem eq_digitChar_of_isDigit {c : Char} (h : c.isDigit = true) :
    ∃ d, d < 10 ∧ c = Nat.digitChar d := by
  have hrange : 48 ≤ c.toNat ∧ c.toNat ≤ 57 := by
    rw [Char.isDigit, Bool.and_eq_true, decide_eq_true_eq, decide_eq_true_eq] at h
    exact h
  refine ⟨c.toNat - 48, by omega, ?_⟩
  conv_lhs => rw [← Char.ofNat_toNat c]
  obtain ⟨hlow, hhigh⟩ := hrange
  generalize c.toNat = n at hlow hhigh
  interval_cases n <;> decide

theorem isDecimalDigit_of_isDigit {c : Char} (h : c.isDigit = true) : isDecimalDigit c = true := by
  obtain ⟨d, hd, rfl⟩ := eq_digitChar_of_isDigit h
  have hdigits : ((List.range 10).all fun d => isDecimalDigit (Nat.digitChar d)) = true := by decide
  exact List.all_eq_true.1 hdigits d (List.mem_range.2 hd)

theorem isDigit_toDigits {n : Nat} {c : Char} (h : c ∈ Nat.toDigits 10 n) : c.isDigit = true :=
  Nat.isDigit_of_mem_toDigits (by decide) (by decide) h

theorem toList_toString (n : Int) :
    (toString n).toList = (if n < 0 then ['-'] else []) ++ Nat.toDigits 10 n.natAbs := by
  cases n with
  | ofNat m =>
    rw [if_neg (by simp), List.nil_append]
    exact Nat.toList_repr
  | negSucc m =>
    rw [if_pos (Int.negSucc_lt_zero m)]
    show ("-" ++ (m + 1).repr).toList = _
    rw [String.toList_append, Nat.toList_repr]
    rfl

theorem isWritten_of_mem_toString {n : Int} {c : Char} (h : c ∈ (toString n).toList) :
    IsWritten c := by
  rw [toList_toString, List.mem_append] at h
  rcases h with h | h
  · split at h
    · exact .inl (List.mem_singleton.1 h)
    · cases h
  · exact .inr (eq_digitChar_of_isDigit (isDigit_toDigits h))

theorem IsWritten.not_blank {c : Char} (h : IsWritten c) : isBlank c = false := by
  rcases h with rfl | ⟨d, hd, rfl⟩
  · decide
  · interval_cases d <;> decide

theorem IsWritten.toAscii {c : Char} (h : IsWritten c) :
    ((decimalValue? c).map Nat.digitChar).getD c = c := by
  rcases h with rfl | ⟨d, hd, rfl⟩
  · decide
  · interval_cases d <;> decide

theorem IsWritten.ne {c x : Char} (h : IsWritten c)
    (hx : (x != '-' && (List.range 10).all fun d => x != Nat.digitChar d) = true) : c ≠ x := by
  rw [Bool.and_eq_true, bne_iff_ne, List.all_eq_true] at hx
  rcases h with rfl | ⟨d, hd, rfl⟩
  · exact hx.1.symm
  · exact (bne_iff_ne.1 (hx.2 d (List.mem_range.2 hd))).symm

theorem IsWritten.not_bracket {c : Char} (h : IsWritten c) : isBracket c = false := by
  rcases h with rfl | ⟨d, hd, rfl⟩
  · decide
  · interval_cases d <;> decide

theorem ungroupFrom_eq {s : List Char} (h : '_' ∉ s) (afterDigit : Bool) :
    ungroupFrom afterDigit s = some s := by
  induction s generalizing afterDigit with
  | nil => rfl
  | cons c s ih =>
    have hc : c ≠ '_' := fun hc => h (by simp [hc])
    unfold ungroupFrom
    split
    · next heq => cases heq
    · next heq => exact absurd (List.cons.inj heq).1 hc
    · next heq => exact absurd (List.cons.inj heq).1 hc
    · next heq =>
      obtain ⟨rfl, rfl⟩ := List.cons.inj heq
      rw [ih (fun hs => h (by simp [hs])), Option.map_some]

theorem normalize?_toString (n : Int) :
    normalize? (toString n).toList = some (toString n).toList := by
  have hwritten : ∀ c ∈ (toString n).toList, IsWritten c := fun c hc => isWritten_of_mem_toString hc
  have hascii : toAsciiDigits (toString n).toList = (toString n).toList := by
    rw [toAsciiDigits, List.map_congr_left fun c hc => (hwritten c hc).toAscii, List.map_id']
  rw [normalize?, strip_eq_self_of_no_blank fun c hc => (hwritten c hc).not_blank, hascii]
  exact ungroupFrom_eq (fun h => (hwritten _ h).ne (by decide) rfl) false

theorem takeSign_toString (n : Int) :
    takeSign (toString n).toList = (decide (n < 0), Nat.toDigits 10 n.natAbs) := by
  rw [toList_toString]
  split
  · next hn => rw [decide_eq_true hn]; rfl
  · next hn =>
    rw [List.nil_append, decide_eq_false hn]
    obtain ⟨c, s, hs⟩ := List.exists_cons_of_ne_nil (Nat.toDigits_ne_nil (n := n.natAbs) (b := 10))
    have hc : c.isDigit = true := isDigit_toDigits (by rw [hs]; simp)
    rw [hs]
    unfold takeSign
    split
    · next heq => rw [(List.cons.inj heq).1] at hc; cases hc
    · next heq => rw [(List.cons.inj heq).1] at hc; cases hc
    · rfl

theorem readInt?_toString {n : Int} (hn : isWritable n = true) :
    readInt? (toString n) = some n := by
  have hvalue : ofDigits (Nat.toDigits 10 n.natAbs) = n.natAbs := Nat.ofDigitChars_ten_toDigits
  have hlength : (Nat.toDigits 10 n.natAbs).length ≤ digitLimit := by
    rw [Nat.length_toDigits_le_iff (by decide) (by decide)]
    exact of_decide_eq_true hn
  have hdigits : (Nat.toDigits 10 n.natAbs).all Char.isDigit = true :=
    List.all_eq_true.2 fun c hc => isDigit_toDigits hc
  have hne : (Nat.toDigits 10 n.natAbs).isEmpty = false := by
    rw [List.isEmpty_eq_false_iff]
    exact Nat.toDigits_ne_nil
  rw [readInt?, normalize?_toString]
  simp only [Option.bind_eq_bind, Option.bind_some, takeSign_toString, hne, hdigits, hlength,
    hvalue, Binary64.signed]
  by_cases hneg : n < 0
  · have hn : n = -(n.natAbs : Int) := by omega
    simp only [hneg, decide_true, if_true]
    exact congrArg some hn.symm
  · have hn : n = (n.natAbs : Int) := by omega
    simp only [hneg, decide_false, Bool.false_eq_true, if_false]
    exact congrArg some hn.symm

/-! ### Integers that were read -/

-- Powers are the core library's, whatever else is imported beside this module.
attribute [local instance (high)] instPowNat

theorem ofDigitChars_lt {s : List Char} (hs : ∀ d ∈ s, d.isDigit = true) {n m : Nat} (hn : n < m) :
    Nat.ofDigitChars 10 s n < m * 10 ^ s.length := by
  induction s generalizing n m with
  | nil => simpa using hn
  | cons d s ih =>
    rw [List.forall_mem_cons] at hs
    have hd : d.toNat - '0'.toNat < 10 := by
      obtain ⟨k, hk, rfl⟩ := eq_digitChar_of_isDigit hs.1
      interval_cases k <;> decide
    rw [Nat.ofDigitChars_cons, List.length_cons, Nat.pow_succ', ← Nat.mul_assoc]
    exact ih hs.2 (by omega)

theorem isWritable_signed {digits : List Char} (hdigits : ∀ d ∈ digits, d.isDigit = true)
    (hlength : digits.length ≤ digitLimit) (negative : Bool) :
    isWritable (Binary64.signed negative (ofDigits digits)) = true := by
  have hlt : ofDigits digits < 10 ^ digitLimit := by
    have := ofDigitChars_lt hdigits Nat.one_pos
    rw [Nat.one_mul] at this
    exact this.trans_le (Nat.pow_le_pow_right (by decide) hlength)
  have habs : (Binary64.signed negative (ofDigits digits)).natAbs = ofDigits digits := by
    rw [Binary64.signed]
    split <;> omega
  rw [isWritable, habs]
  exact decide_eq_true hlt

theorem isWritable_of_readInt? {s : String} {n : Int} (h : readInt? s = some n) :
    isWritable n = true := by
  rw [readInt?] at h
  simp only [Option.bind_eq_bind, Option.bind_eq_some_iff] at h
  obtain ⟨text, -, _, hguard, h⟩ := h
  obtain ⟨-, hdigits, hlength⟩ : (takeSign text).2 ≠ [] ∧
      (∀ d ∈ (takeSign text).2, d.isDigit = true) ∧ (takeSign text).2.length ≤ digitLimit := by
    simpa [guard, and_assoc] using hguard
  obtain rfl := Option.some.inj h
  exact isWritable_signed hdigits hlength _

end Grounding.Numeral

import Grounding.Number.Binary64
import Mathlib.Algebra.Order.Field.Power
import Mathlib.Tactic.FieldSimp
import Mathlib.Tactic.Linarith
import Mathlib.Tactic.NormNum
import Mathlib.Tactic.Positivity
import Mathlib.Tactic.Ring

/-!
# Rounding to binary64

The number nearest to a fraction depends on the value of the fraction alone. It is a significand of
at most 53 bits at the exponent where the fraction fills them, so a fraction closer to such a number
than any rounding error is rounded to this number.
-/

namespace Grounding.Binary64

-- Powers are the core library's, whatever else is imported beside this module.
attribute [local instance (high)] instPowNat

variable {num den k m : Nat} {e q : Int} {x : ℚ} {negative : Bool}

theorem two_zpow_pos (e : Int) : (0 : ℚ) < 2 ^ e := zpow_pos two_pos e

theorem two_zpow_add (e : Int) (n : Nat) :
    (2 : ℚ) ^ (e + n) = ((2 ^ n : Nat) : ℚ) * 2 ^ e := by
  rw [zpow_add₀ two_ne_zero, zpow_natCast, mul_comm]
  push_cast
  rfl

theorem two_zpow_le {e e' : Int} (h : e ≤ e') : (2 : ℚ) ^ e ≤ 2 ^ e' :=
  zpow_le_zpow_right₀ one_le_two h

/-! ### Scaled fractions -/

/-- The fraction `num / den / b ^ e`, as numerator and denominator. -/
def scaleBy (b num den : Nat) (e : Int) : Nat × Nat :=
  if 0 ≤ e then (num, den * b ^ e.toNat) else (num * b ^ (-e).toNat, den)

theorem scaleBy_pos {b : Nat} (hb : 0 < b) (num : Nat) (hden : 0 < den) (e : Int) :
    0 < (scaleBy b num den e).2 := by
  rw [scaleBy]
  split
  · exact Nat.mul_pos hden (Nat.pow_pos hb)
  · exact hden

theorem scaleBy_value (b num den : Nat) (e : Int) :
    ((scaleBy b num den e).1 : ℚ) / (scaleBy b num den e).2 = num / den / (b : ℚ) ^ e := by
  rw [scaleBy]
  split
  · next he =>
    obtain ⟨k, rfl⟩ := Int.eq_ofNat_of_zero_le he
    rw [Int.toNat_natCast, zpow_natCast, div_div]
    push_cast
    rfl
  · next he =>
    obtain ⟨k, rfl⟩ : ∃ k : Nat, e = -k := ⟨(-e).toNat, by omega⟩
    rw [neg_neg, Int.toNat_natCast, zpow_neg, zpow_natCast, div_inv_eq_mul, div_mul_eq_mul_div]
    push_cast
    rfl

theorem scaleRatio_pos (num : Nat) (hden : 0 < den) (e : Int) : 0 < (scaleRatio num den e).2 :=
  scaleBy_pos two_pos num hden e

theorem scaleRatio_value (num den : Nat) (e : Int) :
    ((scaleRatio num den e).1 : ℚ) / (scaleRatio num den e).2 = num / den / 2 ^ e :=
  scaleBy_value 2 num den e

theorem scaleRatio_mul {c : Nat} (e : Int) : scaleRatio (num * c) (den * c) e =
    ((scaleRatio num den e).1 * c, (scaleRatio num den e).2 * c) := by
  rw [scaleRatio, scaleRatio]
  split
  · rw [Nat.mul_right_comm]
  · rw [Nat.mul_right_comm]

/-! ### Exponents -/

/-- The exponent at which a positive number fills 53 bits, or the least one. -/
structure IsExponentOf (e : Int) (x : ℚ) : Prop where
  least : leastExponent ≤ e
  lt : x < 2 ^ (e + 53)
  le : e = leastExponent ∨ 2 ^ (e + 52) ≤ x

theorem IsExponentOf.le_of_lt {e e' : Int} (h : IsExponentOf e x) (h' : x < 2 ^ (e' + 53))
    (hleast : leastExponent ≤ e') : e ≤ e' := by
  by_contra hlt
  rcases h.le with rfl | hle
  · exact hlt hleast
  · have : (2 : ℚ) ^ (e' + 53) ≤ 2 ^ (e + 52) := two_zpow_le (by omega)
    linarith

theorem IsExponentOf.unique {e e' : Int} (h : IsExponentOf e x) (h' : IsExponentOf e' x) :
    e = e' :=
  le_antisymm (h.le_of_lt h'.lt h'.least) (h'.le_of_lt h.lt h.least)

theorem isExponentOf_max (hle : 2 ^ (e + 52) ≤ x) (hlt : x < 2 ^ (e + 53)) :
    IsExponentOf (max leastExponent e) x := by
  refine ⟨le_max_left _ _, hlt.trans_le (two_zpow_le (by omega)), ?_⟩
  rcases le_total leastExponent e with h | h
  · rw [max_eq_right h]
    exact .inr hle
  · exact .inl (max_eq_left h)

theorem log2_le_cast {n : Nat} (hn : 0 < n) : (2 : ℚ) ^ (n.log2 : Int) ≤ n := by
  rw [zpow_natCast]
  exact_mod_cast Nat.log2_self_le hn.ne'

theorem cast_lt_log2 (n : Nat) : (n : ℚ) < 2 ^ ((n.log2 : Int) + 1) := by
  rw [show ((n.log2 : Int) + 1) = ((n.log2 + 1 : Nat) : Int) from rfl, zpow_natCast]
  exact_mod_cast Nat.lt_log2_self

theorem ratio_bounds (hnum : 0 < num) (hden : 0 < den) :
    (2 : ℚ) ^ ((num.log2 : Int) - den.log2 - 1) ≤ num / den ∧
      (num : ℚ) / den < 2 ^ ((num.log2 : Int) - den.log2 + 1) := by
  have hden' : (0 : ℚ) < den := by exact_mod_cast hden
  rw [le_div_iff₀ hden', div_lt_iff₀ hden']
  constructor
  · calc (2 : ℚ) ^ ((num.log2 : Int) - den.log2 - 1) * den
        ≤ 2 ^ ((num.log2 : Int) - den.log2 - 1) * 2 ^ ((den.log2 : Int) + 1) := by
          gcongr
          exact (cast_lt_log2 den).le
      _ = 2 ^ (num.log2 : Int) := by
          rw [← zpow_add₀ two_ne_zero]
          congr 1
          ring
      _ ≤ num := log2_le_cast hnum
  · calc (num : ℚ) < 2 ^ ((num.log2 : Int) + 1) := cast_lt_log2 num
      _ = 2 ^ ((num.log2 : Int) - den.log2 + 1) * 2 ^ (den.log2 : Int) := by
          rw [← zpow_add₀ two_ne_zero]
          congr 1
          ring
      _ ≤ 2 ^ ((num.log2 : Int) - den.log2 + 1) * den := by
          gcongr
          exact log2_le_cast hden

theorem exponentOfRatio_spec (hnum : 0 < num) (hden : 0 < den) :
    IsExponentOf (exponentOfRatio num den) (num / den) := by
  obtain ⟨hlow, hhigh⟩ := ratio_bounds hnum hden
  have hvalue := scaleRatio_value num den (num.log2 - den.log2 - 53)
  have hd := scaleRatio_pos num hden (num.log2 - den.log2 - 53)
  obtain ⟨e, he⟩ : ∃ e : Int, (num.log2 : Int) - den.log2 = e + 53 :=
    ⟨_, (sub_add_cancel _ 53).symm⟩
  rw [he, add_sub_cancel_right] at hvalue hd
  rw [he, add_sub_assoc] at hlow
  rw [he, add_assoc] at hhigh
  rw [exponentOfRatio, he, add_sub_cancel_right]
  generalize scaleRatio num den e = r at hvalue hd ⊢
  obtain ⟨n, d⟩ := r
  have hfull : 2 ^ (53 : Nat) ≤ n / d ↔ (2 : ℚ) ^ (e + 53) ≤ num / den := by
    have hd' : (0 : ℚ) < d := by exact_mod_cast hd
    have hshift : (2 : ℚ) ^ (e + 53) = ((2 ^ 53 : Nat) : ℚ) * 2 ^ e := two_zpow_add e 53
    rw [Nat.le_div_iff_mul_le hd, hshift, ← le_div_iff₀ (two_zpow_pos e), ← hvalue,
      le_div_iff₀ hd']
    exact_mod_cast Iff.rfl
  show IsExponentOf (max leastExponent (if 2 ^ (53 : Nat) ≤ n / d then e + 1 else e)) _
  split
  · next h =>
    refine isExponentOf_max ?_ ?_
    · rw [add_assoc]
      exact hfull.1 h
    · rw [add_assoc]
      exact hhigh
  · next h => exact isExponentOf_max hlow (not_le.1 fun hle => h (hfull.2 hle))

/-! ### Rounding -/

theorem roundQuotient_mul {c : Nat} (hc : 0 < c) (num den : Nat) :
    roundQuotient (num * c) (den * c) = roundQuotient num den := by
  simp only [roundQuotient, Nat.mul_div_mul_right _ _ hc, Nat.mul_mod_mul_right, ← Nat.mul_assoc,
    Nat.mul_lt_mul_right hc]

theorem roundQuotient_le (hden : 0 < den) (h : (num : ℚ) / den ≤ k) :
    roundQuotient num den ≤ k := by
  rw [div_le_iff₀ (by exact_mod_cast hden)] at h
  have hle : num ≤ den * k := by
    rw [Nat.mul_comm]
    exact_mod_cast h
  rcases (Nat.div_le_of_le_mul hle).lt_or_eq with hlt | rfl
  · simp only [roundQuotient]
    split_ifs <;> omega
  · have hmod : num % den = 0 := by
      have := Nat.div_add_mod num den
      omega
    simp only [roundQuotient, hmod, Nat.mul_zero, Nat.not_lt_zero, if_false, if_pos hden, le_refl]

theorem le_roundQuotient (hden : 0 < den) (h : (k : ℚ) ≤ num / den) :
    k ≤ roundQuotient num den := by
  rw [le_div_iff₀ (by exact_mod_cast hden)] at h
  have hdiv : k ≤ num / den := (Nat.le_div_iff_mul_le hden).2 (by exact_mod_cast h)
  simp only [roundQuotient]
  split_ifs <;> omega

theorem roundQuotient_eq (hden : 0 < den) (h : |(num : ℚ) / den - k| < 1 / 2) :
    roundQuotient num den = k := by
  have hden' : (0 : ℚ) < den := by exact_mod_cast hden
  obtain ⟨hlow, hhigh⟩ := abs_lt.1 h
  have hlow : (k : ℚ) - 1 / 2 < num / den := by linarith
  have hhigh : (num : ℚ) / den < k + 1 / 2 := by linarith
  rw [lt_div_iff₀ hden'] at hlow
  rw [div_lt_iff₀ hden'] at hhigh
  have hlow : 2 * (k * den) < 2 * num + den := by
    have : (2 * (k * den) : ℚ) < 2 * num + den := by linarith
    exact_mod_cast this
  have hhigh : 2 * num < 2 * (k * den) + den := by
    have : (2 * num : ℚ) < 2 * (k * den) + den := by linarith
    exact_mod_cast this
  rcases Nat.lt_or_ge num (k * den) with hlt | hge
  · obtain ⟨j, rfl⟩ : ∃ j, k = j + 1 := Nat.exists_eq_add_one_of_ne_zero (by rintro rfl; omega)
    rw [Nat.add_mul] at hlow
    have hquot : num / den = j := Nat.div_eq_of_lt_le (by omega) hlt
    have hrest := Nat.div_add_mod' num den
    rw [hquot] at hrest
    simp only [roundQuotient, hquot]
    rw [if_pos (by omega)]
  · have hquot : num / den = k := Nat.div_eq_of_lt_le hge (by rw [Nat.add_mul]; omega)
    have hrest := Nat.div_add_mod' num den
    rw [hquot] at hrest
    simp only [roundQuotient, hquot]
    rw [if_neg (by omega), if_pos (by omega)]

/--
A rounded significand at its exponent. One that has become too long is half as great at the next
exponent.
-/
def ofRounded (negative : Bool) (m : Nat) (e : Int) : Binary64 :=
  let (m, e) := if m == 2 ^ (53 : Nat) then (2 ^ (52 : Nat), e + 1) else (m, e)
  if greatestExponent < e then .infinite negative else .finite negative m e

theorem ofRatio_of_pos (hnum : 0 < num) (negative : Bool) (den : Nat) :
    ofRatio negative num den = ofRounded negative
      (roundQuotient (scaleRatio num den (exponentOfRatio num den)).1
        (scaleRatio num den (exponentOfRatio num den)).2) (exponentOfRatio num den) := by
  rw [ofRatio, if_neg (by rw [beq_iff_eq]; exact hnum.ne')]
  rfl

/-- The significands and exponents of the finite numbers. -/
structure IsCanonical (m : Nat) (e : Int) : Prop where
  lt : m < 2 ^ (53 : Nat)
  least : leastExponent ≤ e
  greatest : e ≤ greatestExponent
  le : e = leastExponent ∨ 2 ^ (52 : Nat) ≤ m

theorem ofRounded_of_canonical (h : IsCanonical m e) :
    ofRounded negative m e = .finite negative m e := by
  have hm : ¬(m == 2 ^ (53 : Nat)) = true := by
    rw [beq_iff_eq]
    exact h.lt.ne
  rw [ofRounded, if_neg hm]
  exact if_neg (not_lt.2 h.greatest)

theorem ofRounded_full (h : e + 1 ≤ greatestExponent) :
    ofRounded negative (2 ^ (53 : Nat)) e = .finite negative (2 ^ (52 : Nat)) (e + 1) := by
  rw [ofRounded, if_pos (beq_self_eq_true _)]
  exact if_neg (not_lt.2 h)

/-- The numbers of the format with a sign, other than none: the infinite one and the finite ones. -/
def IsSigned (negative : Bool) (x : Binary64) : Prop :=
  x = .infinite negative ∨ ∃ m e, x = .finite negative m e ∧ IsCanonical m e

theorem isSigned_zero (negative : Bool) : IsSigned negative (zero negative) := by
  refine .inr ⟨0, leastExponent, rfl, ?_, ?_, ?_, .inl rfl⟩ <;> decide

theorem isSigned_ofRounded (hm : m ≤ 2 ^ (53 : Nat)) (he : leastExponent ≤ e)
    (hfull : e = leastExponent ∨ 2 ^ (52 : Nat) ≤ m) :
    IsSigned negative (ofRounded negative m e) := by
  simp only [ofRounded]
  split
  · split
    · exact .inl rfl
    · next hgreatest =>
      exact .inr ⟨_, _, rfl, Nat.pow_lt_pow_right (by decide) (by decide), by omega, by omega,
        .inr (le_refl _)⟩
  · next hne =>
    split
    · exact .inl rfl
    · next hgreatest =>
      rw [beq_iff_eq] at hne
      exact .inr ⟨m, e, rfl, lt_of_le_of_ne hm hne, he, by omega, hfull⟩

/-! ### The nearest number -/

theorem isSigned_ofRatio (hden : 0 < den) (num : Nat) :
    IsSigned negative (ofRatio negative num den) := by
  rcases Nat.eq_zero_or_pos num with rfl | hnum
  · exact isSigned_zero negative
  · rw [ofRatio_of_pos hnum]
    obtain ⟨hleast, hlt, hle⟩ := exponentOfRatio_spec hnum hden
    have hpos := scaleRatio_pos num hden (exponentOfRatio num den)
    have hvalue := scaleRatio_value num den (exponentOfRatio num den)
    refine isSigned_ofRounded ?_ hleast (hle.imp_right fun hle => ?_)
    · refine roundQuotient_le hpos ?_
      rw [hvalue, div_le_iff₀ (two_zpow_pos _), ← two_zpow_add]
      exact hlt.le
    · refine le_roundQuotient hpos ?_
      rw [hvalue, le_div_iff₀ (two_zpow_pos _), ← two_zpow_add]
      exact hle

theorem ofRatio_mul {c : Nat} (hden : 0 < den) (hc : 0 < c) :
    ofRatio negative (num * c) (den * c) = ofRatio negative num den := by
  rcases Nat.eq_zero_or_pos num with rfl | hnum
  · rw [Nat.zero_mul]
    rfl
  · have hexponent : exponentOfRatio (num * c) (den * c) = exponentOfRatio num den := by
      have hc' : (c : ℚ) ≠ 0 := by exact_mod_cast hc.ne'
      have h := exponentOfRatio_spec (Nat.mul_pos hnum hc) (Nat.mul_pos hden hc)
      rw [Nat.cast_mul, Nat.cast_mul, mul_div_mul_right _ _ hc'] at h
      exact h.unique (exponentOfRatio_spec hnum hden)
    rw [ofRatio_of_pos (Nat.mul_pos hnum hc), ofRatio_of_pos hnum, hexponent, scaleRatio_mul,
      roundQuotient_mul hc]

theorem ofRatio_congr {num' den' : Nat} (hden : 0 < den) (hden' : 0 < den')
    (h : (num : ℚ) / den = num' / den') :
    ofRatio negative num den = ofRatio negative num' den' := by
  rw [div_eq_div_iff (by exact_mod_cast hden.ne') (by exact_mod_cast hden'.ne')] at h
  have h : num * den' = num' * den := by exact_mod_cast h
  rw [← ofRatio_mul hden hden', h, Nat.mul_comm den den', ofRatio_mul hden' hden]

theorem ofRatio_not (negative : Bool) (num den : Nat) :
    ofRatio (!negative) num den = (ofRatio negative num den).neg := by
  rcases Nat.eq_zero_or_pos num with rfl | hnum
  · rfl
  · rw [ofRatio_of_pos hnum, ofRatio_of_pos hnum, ofRounded, ofRounded]
    split
    split <;> rfl

theorem abs_div_sub_lt {u : ℚ} (hu : 0 < u) (h : |x - k * u| < u / 2) : |x / u - k| < 1 / 2 := by
  have hsub : x / u - k = (x - k * u) / u := by
    rw [sub_div, mul_div_cancel_right₀ _ hu.ne']
  rw [hsub, abs_div, abs_of_pos hu, div_lt_iff₀ hu]
  linarith

theorem ofRatio_eq_ofRounded (hnum : 0 < num) (hden : 0 < den) (hE : IsExponentOf e (num / den))
    (hnear : |(num : ℚ) / den - k * 2 ^ e| < 2 ^ e / 2) :
    ofRatio negative num den = ofRounded negative k e := by
  have hround : |((scaleRatio num den e).1 : ℚ) / (scaleRatio num den e).2 - k| < 1 / 2 := by
    rw [scaleRatio_value]
    exact abs_div_sub_lt (two_zpow_pos e) hnear
  rw [ofRatio_of_pos hnum, (exponentOfRatio_spec hnum hden).unique hE,
    roundQuotient_eq (scaleRatio_pos num hden e) hround]

theorem ofRatio_below_power (he : leastExponent ≤ e) (hgreatest : e + 1 ≤ greatestExponent)
    (hnum : 0 < num) (hden : 0 < den) (hbelow : (num : ℚ) / den < 2 ^ (e + 53))
    (hnear : |(num : ℚ) / den - 2 ^ (e + 53)| < 2 ^ (e + 53) / 2 ^ 54) :
    ofRatio negative num den = .finite negative (2 ^ (52 : Nat)) (e + 1) := by
  have hpos := two_zpow_pos e
  have hshift : (2 : ℚ) ^ (e + 53) = (2 ^ (53 : Nat) : Nat) * 2 ^ e := two_zpow_add e 53
  have hshift' : (2 : ℚ) ^ (e + 52) = (2 ^ (52 : Nat) : Nat) * 2 ^ e := two_zpow_add e 52
  have hE : IsExponentOf e (num / den) := by
    refine ⟨he, hbelow, .inr ?_⟩
    have hlow := (abs_lt.1 hnear).1
    rw [hshift] at hlow
    rw [hshift']
    push_cast at hlow ⊢
    linarith
  have hround : |(num : ℚ) / den - (2 ^ (53 : Nat) : Nat) * 2 ^ e| < 2 ^ e / 2 := by
    rw [hshift] at hnear
    refine hnear.trans_le ?_
    push_cast
    linarith
  rw [ofRatio_eq_ofRounded hnum hden hE hround, ofRounded_full hgreatest]

/-- A fraction off from a finite number by less than any rounding error is rounded to it. -/
theorem ofRatio_near (hm : IsCanonical m e) (hnum : 0 < num) (hden : 0 < den)
    (hnear : |(num : ℚ) / den - m * 2 ^ e| < m * 2 ^ e / 2 ^ 54) :
    ofRatio negative num den = .finite negative m e := by
  have hE := exponentOfRatio_spec hnum hden
  have hstep := two_zpow_pos e
  have hbits : (m : ℚ) + 1 ≤ (2 ^ (53 : Nat) : Nat) := by exact_mod_cast hm.lt
  have hvalue := mul_le_mul_of_nonneg_right hbits hstep.le
  have hhalf : |(num : ℚ) / den - m * 2 ^ e| < 2 ^ e / 2 := by
    refine hnear.trans ?_
    push_cast at hvalue
    linarith
  obtain ⟨hlow, hhigh⟩ := abs_lt.1 hhalf
  have hle : exponentOfRatio num den ≤ e := by
    refine hE.le_of_lt ?_ hm.least
    have hshift : (2 : ℚ) ^ (e + 53) = (2 ^ (53 : Nat) : Nat) * 2 ^ e := two_zpow_add e 53
    linarith
  rcases hle.lt_or_eq with hlt | heq
  · -- The number is a power of two, and the fraction lies below it.
    have hfull : 2 ^ (52 : Nat) ≤ m := hm.le.resolve_left (by have := hE.least; omega)
    have hbelow : (num : ℚ) / den < (2 ^ (52 : Nat) : Nat) * 2 ^ e := by
      rw [← two_zpow_add]
      exact hE.lt.trans_le (two_zpow_le (by push_cast; omega))
    have hpower : m = 2 ^ (52 : Nat) := by
      refine le_antisymm (not_lt.1 fun hgt => ?_) hfull
      have hgt : ((2 ^ (52 : Nat) : Nat) : ℚ) + 1 ≤ m := by exact_mod_cast hgt
      have hge := mul_le_mul_of_nonneg_right hgt hstep.le
      push_cast at hge hbelow
      linarith
    obtain ⟨f, rfl⟩ : ∃ f, e = f + 1 := ⟨e - 1, by omega⟩
    have hshift : (2 ^ (52 : Nat) : Nat) * (2 : ℚ) ^ (f + 1) = 2 ^ (f + 53) := by
      rw [← two_zpow_add]
      congr 1
      push_cast
      ring
    rw [hpower, hshift] at hnear
    rw [hshift] at hbelow
    have hleast : leastExponent ≤ f := by
      have := hE.least
      omega
    rw [ofRatio_below_power hleast hm.greatest hnum hden hbelow hnear, hpower]
  · rw [heq] at hE
    rw [ofRatio_eq_ofRounded hnum hden hE hhalf, ofRounded_of_canonical hm]

/-! ### Decimals -/

def decimalRatio (digits : Nat) (q : Int) : Nat × Nat := scaleBy 10 digits 1 (-q)

theorem decimalRatio_pos (k : Nat) (q : Int) : 0 < (decimalRatio k q).2 :=
  scaleBy_pos (by decide) k Nat.one_pos (-q)

theorem decimalRatio_value (k : Nat) (q : Int) :
    ((decimalRatio k q).1 : ℚ) / (decimalRatio k q).2 = k * 10 ^ q := by
  rw [decimalRatio, scaleBy_value, Nat.cast_one, div_one, zpow_neg, div_inv_eq_mul]
  rfl

theorem decimalRatio_eq (k : Nat) (q : Int) : decimalRatio k q =
    if 0 ≤ q then (k * 10 ^ q.toNat, 1) else (k, 10 ^ (-q).toNat) := by
  rw [decimalRatio, scaleBy, neg_neg, Nat.one_mul]
  rcases lt_trichotomy q 0 with hq | rfl | hq
  · rw [if_pos (by omega), if_neg (by omega)]
  · rw [if_pos (le_refl _), Int.toNat_zero, Nat.pow_zero, Nat.mul_one]
    rfl
  · rw [if_neg (by omega), if_pos hq.le]

/-- The place of the first digit of a decimal. -/
def reachOf (digits : Nat) (q : Int) : Int := (toString digits).length + q

theorem ofDecimal_of_pos (hk : 0 < k) (negative : Bool) (q : Int) : ofDecimal negative k q =
    if reachOf k q < -330 then zero negative
    else if 320 < reachOf k q then .infinite negative
    else ofRatio negative (decimalRatio k q).1 (decimalRatio k q).2 := by
  have hk : (k == 0) = false := beq_eq_false_iff_ne.2 hk.ne'
  rw [ofDecimal, reachOf, decimalRatio_eq, hk, Bool.false_or]
  simp only [decide_eq_true_eq]
  split_ifs <;> rfl

theorem ofDecimal_zero (negative : Bool) (q : Int) : ofDecimal negative 0 q = zero negative := rfl

theorem isSigned_ofDecimal (negative : Bool) (k : Nat) (q : Int) :
    IsSigned negative (ofDecimal negative k q) := by
  rcases Nat.eq_zero_or_pos k with rfl | hk
  · exact isSigned_zero negative
  · rw [ofDecimal_of_pos hk]
    split_ifs
    · exact isSigned_zero negative
    · exact .inl rfl
    · exact isSigned_ofRatio (decimalRatio_pos k q) _

theorem ofDecimal_not (negative : Bool) (k : Nat) (q : Int) :
    ofDecimal (!negative) k q = (ofDecimal negative k q).neg := by
  rcases Nat.eq_zero_or_pos k with rfl | hk
  · rfl
  · rw [ofDecimal_of_pos hk, ofDecimal_of_pos hk, ofRatio_not]
    split_ifs <;> rfl

theorem toDigits_mul_pow (hk : 0 < k) (j : Nat) :
    Nat.toDigits 10 (k * 10 ^ j) = Nat.toDigits 10 k ++ List.replicate j '0' := by
  induction j with
  | zero => rw [Nat.pow_zero, Nat.mul_one, List.replicate_zero, List.append_nil]
  | succ j ih =>
    have hge : 10 ≤ k * 10 ^ j * 10 := by
      have := Nat.mul_pos hk (Nat.pow_pos (n := j) (show 0 < 10 by decide))
      omega
    rw [Nat.pow_succ, ← Nat.mul_assoc, Nat.toDigits_of_base_le (by decide) hge,
      Nat.mul_div_cancel _ (by decide), Nat.mul_mod_left, ih, List.append_assoc,
      List.replicate_succ']
    rfl

theorem length_toString (n : Nat) : (toString n).length = (Nat.toDigits 10 n).length := by
  rw [← String.length_toList]
  exact congrArg List.length Nat.toList_repr

theorem reachOf_mul_pow (hk : 0 < k) (q : Int) (j : Nat) :
    reachOf (k * 10 ^ j) (q - j) = reachOf k q := by
  rw [reachOf, reachOf, length_toString, length_toString, toDigits_mul_pow hk, List.length_append,
    List.length_replicate]
  omega

theorem ofDecimal_mul_pow (negative : Bool) (k : Nat) (q : Int) (j : Nat) :
    ofDecimal negative (k * 10 ^ j) (q - j) = ofDecimal negative k q := by
  rcases Nat.eq_zero_or_pos k with rfl | hk
  · rw [Nat.zero_mul]
    rfl
  · have hvalue : ((decimalRatio (k * 10 ^ j) (q - j)).1 : ℚ) /
        (decimalRatio (k * 10 ^ j) (q - j)).2 = (decimalRatio k q).1 / (decimalRatio k q).2 := by
      rw [decimalRatio_value, decimalRatio_value, zpow_sub₀ (by norm_num), zpow_natCast]
      push_cast
      field_simp
    rw [ofDecimal_of_pos hk, ofDecimal_of_pos (Nat.mul_pos hk (Nat.pow_pos (by decide))),
      reachOf_mul_pow hk, ofRatio_congr (decimalRatio_pos _ _) (decimalRatio_pos _ _) hvalue]

theorem ten_zpow_pos (q : Int) : (0 : ℚ) < 10 ^ q := zpow_pos (by norm_num) q

theorem length_toString_spec (hk : 0 < k) :
    (10 : ℚ) ^ (((toString k).length : Int) - 1) ≤ k ∧
      (k : ℚ) < 10 ^ ((toString k).length : Int) := by
  rw [length_toString]
  have hlength : 0 < (Nat.toDigits 10 k).length := List.length_pos_iff.2 Nat.toDigits_ne_nil
  have hcount {n : Nat} (hn : 0 < n) : (Nat.toDigits 10 k).length ≤ n ↔ k < 10 ^ n :=
    Nat.length_toDigits_le_iff (by decide) hn
  generalize (Nat.toDigits 10 k).length = n at hlength hcount
  obtain ⟨n, rfl⟩ := Nat.exists_eq_succ_of_ne_zero hlength.ne'
  constructor
  · have hle : 10 ^ n ≤ k := by
      rcases Nat.eq_zero_or_pos n with rfl | hn
      · exact hk
      · exact Nat.le_of_not_lt fun hlt => by have := (hcount hn).2 hlt; omega
    rw [Nat.succ_eq_add_one, Nat.cast_succ, add_sub_cancel_right, zpow_natCast]
    exact_mod_cast hle
  · rw [zpow_natCast]
    exact_mod_cast (hcount hlength).1 (le_refl _)

theorem reachOf_spec (hk : 0 < k) (q : Int) :
    (10 : ℚ) ^ (reachOf k q - 1) ≤ k * 10 ^ q ∧ k * 10 ^ q < (10 : ℚ) ^ reachOf k q := by
  obtain ⟨hle, hlt⟩ := length_toString_spec hk
  have hten : (10 : ℚ) ≠ 0 := by norm_num
  constructor
  · rw [reachOf, add_sub_right_comm, zpow_add₀ hten]
    exact mul_le_mul_of_nonneg_right hle (ten_zpow_pos q).le
  · rw [reachOf, zpow_add₀ hten]
    exact mul_lt_mul_of_pos_right hlt (ten_zpow_pos q)

theorem two_zpow_lt_ten_zpow : (2 : ℚ) ^ (1025 : Int) < 10 ^ (310 : Int) := by
  have h : (2 : ℚ) ^ 205 < 10 ^ 62 := by norm_num
  have hpow := pow_lt_pow_left₀ h (by positivity) (show 5 ≠ 0 by decide)
  rw [← pow_mul, ← pow_mul] at hpow
  rw [zpow_ofNat, zpow_ofNat]
  exact hpow

theorem ten_zpow_lt_two_zpow : (10 : ℚ) ^ (-325 : Int) < 2 ^ (-1075 : Int) := by
  have h : (2 : ℚ) ^ 215 < 10 ^ 65 := by norm_num
  have hpow := pow_lt_pow_left₀ h (by positivity) (show 5 ≠ 0 by decide)
  rw [← pow_mul, ← pow_mul] at hpow
  rw [zpow_neg, zpow_neg, zpow_ofNat, zpow_ofNat]
  exact inv_strictAnti₀ (by positivity) hpow

theorem IsCanonical.value_lt (hm : IsCanonical m e) : 2 * (m * 2 ^ e) < (10 : ℚ) ^ (310 : Int) := by
  have hbits : (m : ℚ) < 2 ^ (53 : Int) := by exact_mod_cast hm.lt
  refine lt_trans ?_ two_zpow_lt_ten_zpow
  calc 2 * (m * 2 ^ e) < 2 * (2 ^ (53 : Int) * (2 : ℚ) ^ e) := by
        gcongr
    _ = 2 ^ (e + 54) := by
        rw [← zpow_add₀ two_ne_zero, ← zpow_one_add₀ two_ne_zero]
        congr 1
        ring
    _ ≤ 2 ^ (1025 : Int) := by
        have hgreatest := hm.greatest
        rw [greatestExponent] at hgreatest
        exact two_zpow_le (by omega)

theorem IsCanonical.lt_value (hm : IsCanonical m e) (hpos : 0 < m) :
    (10 : ℚ) ^ (-325 : Int) < m * 2 ^ e / 2 := by
  have hone : (1 : ℚ) ≤ m := by exact_mod_cast hpos
  refine ten_zpow_lt_two_zpow.trans_le ?_
  calc (2 : ℚ) ^ (-1075 : Int) ≤ 2 ^ (e - 1) := by
        have hleast := hm.least
        rw [leastExponent] at hleast
        exact two_zpow_le (by omega)
    _ = 1 * 2 ^ e / 2 := by rw [zpow_sub_one₀ two_ne_zero, one_mul, div_eq_mul_inv]
    _ ≤ m * 2 ^ e / 2 := by gcongr

theorem ofDecimal_near (hm : IsCanonical m e) (hpos : 0 < m)
    (hnear : |(k : ℚ) * 10 ^ q - m * 2 ^ e| < m * 2 ^ e / 2 ^ 54) :
    ofDecimal negative k q = .finite negative m e := by
  have hlow := hm.lt_value hpos
  have hhigh := hm.value_lt
  have hvalue := decimalRatio_value k q
  have hhalf : (m : ℚ) * 2 ^ e / 2 < k * 10 ^ q := by
    have := (abs_lt.1 hnear).1
    have : (0 : ℚ) < m * 2 ^ e := by positivity
    linarith
  have hdouble : (k : ℚ) * 10 ^ q < 2 * (m * 2 ^ e) := by
    have := (abs_lt.1 hnear).2
    have : (0 : ℚ) < m * 2 ^ e := by positivity
    linarith
  have hdecimal : (0 : ℚ) < k * 10 ^ q := (ten_zpow_pos _).trans (hlow.trans hhalf)
  have hk : 0 < k := by
    exact_mod_cast (pos_iff_pos_of_mul_pos hdecimal).2 (ten_zpow_pos q)
  have hnum : 0 < (decimalRatio k q).1 := by
    refine Nat.pos_of_ne_zero fun hzero => ?_
    rw [hzero, Nat.cast_zero, zero_div] at hvalue
    exact hdecimal.ne hvalue
  obtain ⟨hle, hlt⟩ := reachOf_spec hk q
  have hten : (1 : ℚ) < 10 := by norm_num
  have hreachLow : -325 < reachOf k q :=
    (zpow_lt_zpow_iff_right₀ hten).1 (hlow.trans (hhalf.trans hlt))
  have hreachHigh : reachOf k q - 1 < 310 :=
    (zpow_lt_zpow_iff_right₀ hten).1 (hle.trans_lt (hdouble.trans hhigh))
  rw [ofDecimal_of_pos hk, if_neg (by omega), if_neg (by omega)]
  exact ofRatio_near hm hnum (decimalRatio_pos k q) (by rwa [hvalue])

end Grounding.Binary64

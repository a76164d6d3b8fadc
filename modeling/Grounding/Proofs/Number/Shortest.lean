import Grounding.Number.Shortest
import Grounding.Proofs.Json.Reading
import Grounding.Proofs.Json.Writing
import Grounding.Proofs.Number.Decimal
import Grounding.Proofs.Number.Rounding
import Mathlib.Data.Nat.Cast.Order.Field

/-!
# The texts of numbers read back

Seventeen digits tell every two numbers apart: on that decimal grid one of the neighbours of a
number is off from it by less than any rounding error. So the search for the shortest digits
succeeds, with digits that are rounded to the number, and wherever the point or an exponent stands
in the text, it is read as these digits.
-/

namespace Grounding.Binary64

open Numeral Json

-- Powers are the core library's, whatever else is imported beside this module.
attribute [local instance (high)] instPowNat

variable {num den k m n : Nat} {e q : Int} {x : ℚ} {negative : Bool}

/-! ### The decimal grids -/

theorem scaleDecimal_pos (num : Nat) (hden : 0 < den) (q : Int) : 0 < (scaleDecimal num den q).2 :=
  scaleBy_pos (by decide) num hden q

theorem scaleDecimal_value (num den : Nat) (q : Int) :
    ((scaleDecimal num den q).1 : ℚ) / (scaleDecimal num den q).2 = num / den / 10 ^ q :=
  scaleBy_value 10 num den q

theorem lt_cast_div_add_one (hden : 0 < den) (num : Nat) :
    (num : ℚ) / den < (num / den : Nat) + 1 := by
  rw [div_lt_iff₀ (by exact_mod_cast hden)]
  exact_mod_cast Nat.lt_mul_of_div_lt (Nat.lt_succ_self (num / den)) hden

theorem pointOfRatio_spec (hnum : 0 < num) (hden : 0 < den) :
    (10 : ℚ) ^ (pointOfRatio num den - 1) ≤ num / den := by
  have hnum' : (0 : ℚ) < num := by exact_mod_cast hnum
  have hden' : (0 : ℚ) < den := by exact_mod_cast hden
  rw [pointOfRatio]
  split
  · next hle =>
    refine (length_toString_spec (Nat.div_pos hle hden)).1.trans ?_
    exact Nat.cast_div_le
  · next hlt =>
    have hpos : 0 < den / num := Nat.div_pos (by omega) hnum
    have hcount := (length_toString_spec hpos).2
    rw [show (1 - (digitCount (den / num) : Int) - 1) = -(digitCount (den / num) : Int) by ring,
      zpow_neg, ← inv_div]
    refine inv_anti₀ (by positivity) ((lt_cast_div_add_one hnum den).le.trans ?_)
    rw [zpow_natCast] at hcount ⊢
    exact_mod_cast hcount

theorem neighbour?_reads {y : Binary64} (h : neighbour? y num den q = some k) :
    ofDecimal false k q = y := by
  simp only [neighbour?] at h
  split at h
  · next hlow hhigh =>
    cases h
    split
    · exact beq_iff_eq.1 hlow
    · exact beq_iff_eq.1 hhigh
  · next hlow _ =>
    cases h
    exact beq_iff_eq.1 hlow
  · next _ hhigh =>
    cases h
    exact beq_iff_eq.1 hhigh
  · cases h

theorem isSome_neighbour? {y : Binary64}
    (h : k = (scaleDecimal num den q).1 / (scaleDecimal num den q).2 ∨
      k = (scaleDecimal num den q).1 / (scaleDecimal num den q).2 + 1)
    (hread : ofDecimal false k q = y) : (neighbour? y num den q).isSome = true := by
  simp only [neighbour?]
  split
  · rfl
  · rfl
  · rfl
  · next hlow hhigh =>
    rcases h with rfl | rfl
    · rw [hread, beq_self_eq_true] at hlow
      cases hlow
    · rw [hread, beq_self_eq_true] at hhigh
      cases hhigh

theorem exists_neighbour (num : Nat) (hden : 0 < den) (q : Int) :
    ∃ k, (k = (scaleDecimal num den q).1 / (scaleDecimal num den q).2 ∨
      k = (scaleDecimal num den q).1 / (scaleDecimal num den q).2 + 1) ∧
      |(k : ℚ) * 10 ^ q - num / den| ≤ 10 ^ q / 2 := by
  have hq := ten_zpow_pos q
  have hvalue := scaleDecimal_value num den q
  have hlow := Nat.cast_div_le (α := ℚ) (m := (scaleDecimal num den q).1)
    (n := (scaleDecimal num den q).2)
  have hhigh := lt_cast_div_add_one (scaleDecimal_pos num hden q) (scaleDecimal num den q).1
  generalize (scaleDecimal num den q).1 / (scaleDecimal num den q).2 = low at hlow hhigh ⊢
  rw [hvalue] at hlow hhigh
  rw [le_div_iff₀ hq] at hlow
  rw [div_lt_iff₀ hq] at hhigh
  by_cases hhalf : (num : ℚ) / den ≤ (low + 1 / 2) * 10 ^ q
  · exact ⟨low, .inl rfl, abs_le.2 ⟨by linarith, by linarith⟩⟩
  · refine ⟨low + 1, .inr rfl, abs_le.2 ?_⟩
    push_cast
    exact ⟨by linarith, by linarith⟩

/-! ### The shortest digits -/

/-- On the grid of seventeen digits a neighbour of a number is rounded to it. -/
theorem isSome_neighbour?_of_canonical (hm : IsCanonical m e) (hpos : 0 < m) (hden : 0 < den)
    (hvalue : (num : ℚ) / den = m * 2 ^ e) :
    (neighbour? (.finite false m e) num den (pointOfRatio num den - 17)).isSome = true := by
  have hvaluePos : (0 : ℚ) < num / den := by
    rw [hvalue]
    positivity
  have hnum : 0 < num := by
    refine Nat.pos_of_ne_zero ?_
    rintro rfl
    rw [Nat.cast_zero, zero_div] at hvaluePos
    exact hvaluePos.false
  obtain ⟨k, hk, hnear⟩ := exists_neighbour num hden (pointOfRatio num den - 17)
  have hpoint := pointOfRatio_spec hnum hden
  have hshift : (10 : ℚ) ^ (pointOfRatio num den - 1)
      = 10 ^ 16 * 10 ^ (pointOfRatio num den - 17) := by
    rw [← zpow_natCast, ← zpow_add₀ (by norm_num)]
    congr 1
    push_cast
    ring
  refine isSome_neighbour? hk (ofDecimal_near hm hpos ?_)
  rw [← hvalue]
  refine hnear.trans_lt ?_
  rw [hshift] at hpoint
  linarith

/-- The first grid with a neighbour that reads as the number, and this neighbour. -/
def hit? (y : Binary64) (num den : Nat) : Option (Nat × Int) :=
  (List.range 17).findSome? fun (n : Nat) =>
    (neighbour? y num den (pointOfRatio num den - (n + 1))).map fun k =>
      (k, pointOfRatio num den - (n + 1))

theorem shortestOfRatio_of_hit {y : Binary64} (h : hit? y num den = some (k, q)) :
    shortestOfRatio y num den =
      ⟨trimZeros (toString k).toList, (toString k).toList.length + q⟩ := by
  rw [hit?] at h
  rw [shortestOfRatio, h]

theorem ofDecimal_of_hit {y : Binary64} (h : hit? y num den = some (k, q)) :
    ofDecimal false k q = y := by
  obtain ⟨n, -, hn⟩ := List.exists_of_findSome?_eq_some h
  obtain ⟨k', hk', heq⟩ := Option.map_eq_some_iff.1 hn
  cases heq
  exact neighbour?_reads hk'

theorem exists_hit (hm : IsCanonical m e) (hpos : 0 < m) (hden : 0 < den)
    (hvalue : (num : ℚ) / den = m * 2 ^ e) :
    ∃ k q, hit? (.finite false m e) num den = some (k, q) := by
  have hsome : (hit? (.finite false m e) num den).isSome = true := by
    rw [hit?, List.findSome?_isSome_iff]
    refine ⟨16, List.mem_range.2 (by decide), ?_⟩
    rw [Option.isSome_map]
    exact isSome_neighbour?_of_canonical hm hpos hden hvalue
  obtain ⟨⟨k, q⟩, hhit⟩ := Option.isSome_iff_exists.1 hsome
  exact ⟨k, q, hhit⟩

/-! ### Reading decimals -/

theorem ofDigits_append (s t : List Char) :
    ofDigits (s ++ t) = Nat.ofDigitChars 10 t (ofDigits s) :=
  Nat.ofDigitChars_append 0

theorem ofDigits_replicate_append (n : Nat) (s : List Char) :
    ofDigits (List.replicate n '0' ++ s) = ofDigits s := by
  rw [ofDigits_append]
  show Nat.ofDigitChars 10 s (Nat.ofDigitChars 10 (List.replicate n '0') 0) =
    Nat.ofDigitChars 10 s 0
  rw [Nat.ofDigitChars_replicate_zero, Nat.mul_zero]

theorem ofDigits_append_replicate (s : List Char) (n : Nat) :
    ofDigits (s ++ List.replicate n '0') = ofDigits s * 10 ^ n := by
  rw [ofDigits_append, Nat.ofDigitChars_replicate_zero, Nat.mul_comm]

theorem readExponent?_mark {mark : Char} {s digits : List Char} (hmark : mark = 'e' ∨ mark = 'E')
    (hsign : takeSign s = (negative, digits)) (hdigits : IsDigits digits) :
    readExponent? (mark :: s) = some (signed negative (ofDigits digits)) := by
  have hmark : (mark == 'e' || mark == 'E') = true := by simpa using hmark
  have hguard : (!digits.isEmpty && digits.all Char.isDigit) = true := by
    simpa using And.intro hdigits.1 hdigits.2
  rw [readExponent?, hsign]
  simp only [hmark, Bool.true_and, hguard]
  rfl

theorem readExponent?_written {exponent : Option Int} {text : List Char}
    (h : WritesExponent exponent text) : readExponent? text = some (exponent.getD 0) := by
  cases h with
  | none => rfl
  | @unsigned mark digits hmark hdigits =>
    have hsign := takeSign_digits hdigits []
    rw [List.append_nil] at hsign
    exact readExponent?_mark hmark hsign hdigits
  | @signed mark sign digits hmark hsign hdigits =>
    refine readExponent?_mark hmark ?_ hdigits
    rcases hsign with rfl | rfl <;> rfl

theorem head_of_writesExponent {exponent : Option Int} {text : List Char} {c : Char}
    (h : WritesExponent exponent text) (hc : text.head? = some c) : c = 'e' ∨ c = 'E' := by
  cases h with
  | none => cases hc
  | unsigned hmark _ | signed hmark _ _ =>
    cases hc
    exact hmark

theorem readDecimal?_written {whole fraction text : List Char} {exponent : Option Int}
    (hwhole : IsDigits whole) (hfraction : ∀ d ∈ fraction, d.isDigit = true)
    (hexponent : WritesExponent exponent text) (negative : Bool) :
    readDecimal? negative (whole ++ fractionText fraction ++ text) = some (ofDecimal negative
      (ofDigits (whole ++ fraction)) (exponent.getD 0 - fraction.length)) := by
  have hempty : whole.isEmpty = false := List.isEmpty_eq_false_iff.2 hwhole.1
  have htext : ∀ c, text.head? = some c → c.isDigit = false ∧ c ≠ '.' := by
    intro c hc
    rcases head_of_writesExponent hexponent hc with rfl | rfl <;> decide
  have htail : ∀ c, (fractionText fraction ++ text).head? = some c → c.isDigit = false := by
    intro c hc
    cases fraction with
    | nil => exact (htext c hc).1
    | cons d ds =>
      cases hc
      decide
  obtain ⟨htake, hdrop⟩ := Prod.mk.inj (takeDigits_append hwhole.2 htail)
  rw [List.append_assoc, readDecimal?, htake, hdrop]
  cases fraction with
  | nil =>
    rw [fractionText, List.isEmpty_nil, if_pos rfl, List.nil_append]
    split
    next fraction rest hsplit =>
      have hsplit : ([], text) = (fraction, rest) := by
        split at hsplit
        · exact absurd rfl (htext '.' rfl).2
        · exact hsplit
      cases hsplit
      simp [hempty, readExponent?_written hexponent]
  | cons d ds =>
    obtain ⟨htake, hdrop⟩ := Prod.mk.inj
      (takeDigits_append hfraction fun c hc => (htext c hc).1)
    rw [fractionText, List.isEmpty_cons, if_neg Bool.false_ne_true, List.cons_append]
    simp only [htake, hdrop, readExponent?_written hexponent]
    simp [hempty]

/-! ### Writing decimals -/

theorem toList_toString_nat (n : Nat) : (toString n).toList = Nat.toDigits 10 n := Nat.toList_repr

theorem writesExponent_exponentText (e : Int) :
    WritesExponent (some e) ('e' :: exponentText e) := by
  have hdigits := (isWhole_toDigits e.natAbs).1
  have hvalue : ofDigits (Nat.toDigits 10 e.natAbs) = e.natAbs := Nat.ofDigitChars_ten_toDigits
  have hpadded : ∃ digits, exponentText e = (if e < 0 then '-' else '+') :: digits ∧
      IsDigits digits ∧ ofDigits digits = e.natAbs := by
    rw [exponentText, toList_toString_nat]
    refine ⟨_, rfl, ?_⟩
    split
    · refine ⟨⟨List.cons_ne_nil _ _, List.forall_mem_cons.2 ⟨by decide, hdigits.2⟩⟩, ?_⟩
      exact (ofDigits_replicate_append 1 _).trans hvalue
    · exact ⟨hdigits, hvalue⟩
  obtain ⟨digits, htext, hdigits, hvalue⟩ := hpadded
  have hsigned : e = signed ((if e < 0 then '-' else '+') == '-') (ofDigits digits) := by
    rw [hvalue]
    split
    · show e = -(e.natAbs : Int)
      omega
    · show e = (e.natAbs : Int)
      omega
  rw [htext]
  nth_rewrite 1 [hsigned]
  exact .signed (.inl rfl) (by split <;> simp) hdigits

/-- A text is a number of the grammar with a fraction or an exponent, and is read as a decimal. -/
def WritesDecimal (s : List Char) (digits : Nat) (q : Int) : Prop :=
  ∃ whole fraction exponent text, s = whole ++ fractionText fraction ++ text ∧
    IsDigits whole ∧ (∀ c ∈ fraction, c.isDigit = true) ∧ WritesExponent exponent text ∧
    (fraction ≠ [] ∨ exponent ≠ none) ∧
    ∀ negative, ofDecimal negative (ofDigits (whole ++ fraction))
      (exponent.getD 0 - fraction.length) = ofDecimal negative digits q

theorem WritesDecimal.readDecimal? {s : List Char} (h : WritesDecimal s k q) (negative : Bool) :
    readDecimal? negative s = some (ofDecimal negative k q) := by
  obtain ⟨whole, fraction, exponent, text, rfl, hwhole, hfraction, hexponent, -, hvalue⟩ := h
  rw [readDecimal?_written hwhole hfraction hexponent, hvalue]

theorem WritesDecimal.not_all_isDigit {s : List Char} (h : WritesDecimal s k q) :
    s.all Char.isDigit = false := by
  obtain ⟨whole, fraction, exponent, text, rfl, -, -, hexponent, hne, -⟩ := h
  rw [List.all_append, List.all_append]
  rcases hne with hne | hne
  · obtain ⟨d, ds, rfl⟩ := List.exists_cons_of_ne_nil hne
    have hpoint : (fractionText (d :: ds)).all Char.isDigit = false := rfl
    rw [hpoint, Bool.and_false, Bool.false_and]
  · have hmark : text.all Char.isDigit = false := by
      cases hexponent with
      | none => exact absurd rfl hne
      | unsigned hmark _ | signed hmark _ _ => rcases hmark with rfl | rfl <;> rfl
    rw [hmark, Bool.and_false]

theorem WritesDecimal.head {s : List Char} (h : WritesDecimal s k q) :
    ∃ c rest, s = c :: rest ∧ c.isDigit = true := by
  obtain ⟨whole, fraction, exponent, text, rfl, ⟨hne, hdigits⟩, -⟩ := h
  obtain ⟨d, ds, rfl⟩ := List.exists_cons_of_ne_nil hne
  exact ⟨d, ds ++ fractionText fraction ++ text, rfl, hdigits d List.mem_cons_self⟩

variable {ds : List Char} {p : Int}

theorem isDigits_zero : IsDigits ['0'] := ⟨nofun, List.forall_mem_singleton.2 rfl⟩

theorem writesDecimal_exponent (hds : IsDigits ds) (p : Int) :
    WritesDecimal (ds.take 1 ++ fractionText (ds.drop 1) ++ 'e' :: exponentText (p - 1))
      (ofDigits ds) (p - ds.length) := by
  obtain ⟨hne, hdigits⟩ := hds
  have hpositive : 0 < ds.length := List.length_pos_iff.2 hne
  refine ⟨ds.take 1, ds.drop 1, some (p - 1), _, rfl,
    ⟨?_, fun c hc => hdigits c (List.mem_of_mem_take hc)⟩,
    fun c hc => hdigits c (List.mem_of_mem_drop hc), writesExponent_exponentText (p - 1),
    .inr nofun, fun negative => ?_⟩
  · rw [Ne, List.take_eq_nil_iff]
    simpa using hne
  · rw [List.take_append_drop, Option.getD_some, List.length_drop]
    congr 1
    omega

theorem writesDecimal_small (hds : IsDigits ds) (hp : p ≤ 0) :
    WritesDecimal (['0', '.'] ++ List.replicate (-p).toNat '0' ++ ds) (ofDigits ds)
      (p - ds.length) := by
  obtain ⟨hne, hdigits⟩ := hds
  have hfraction : List.replicate (-p).toNat '0' ++ ds ≠ [] := by simp [hne]
  refine ⟨['0'], List.replicate (-p).toNat '0' ++ ds, none, [], ?_, isDigits_zero, ?_, .none,
    .inl hfraction, fun negative => ?_⟩
  · rw [fractionText, if_neg (by rwa [List.isEmpty_iff]), List.append_nil]
    rfl
  · intro c hc
    rcases List.mem_append.1 hc with hc | hc
    · rw [List.eq_of_mem_replicate hc]
      rfl
    · exact hdigits c hc
  · have hzeros : ['0'] ++ (List.replicate (-p).toNat '0' ++ ds) =
        List.replicate ((-p).toNat + 1) '0' ++ ds := rfl
    rw [hzeros, ofDigits_replicate_append, List.length_append, List.length_replicate,
      Option.getD_none]
    congr 1
    omega

theorem writesDecimal_whole (hds : IsDigits ds) {n : Nat} (hn : ds.length ≤ n) :
    WritesDecimal (ds ++ List.replicate (n - ds.length) '0' ++ ['.', '0']) (ofDigits ds)
      (n - ds.length) := by
  obtain ⟨hne, hdigits⟩ := hds
  refine ⟨ds ++ List.replicate (n - ds.length) '0', ['0'], none, [], ?_, ⟨?_, ?_⟩,
    isDigits_zero.2, .none, .inl nofun, fun negative => ?_⟩
  · exact (List.append_nil _).symm
  · simp [hne]
  · intro c hc
    rcases List.mem_append.1 hc with hc | hc
    · exact hdigits c hc
    · rw [List.eq_of_mem_replicate hc]
      rfl
  · have hzeros : ds ++ List.replicate (n - ds.length) '0' ++ ['0'] =
        ds ++ List.replicate (n - ds.length + 1) '0' := by
      rw [List.replicate_succ', List.append_assoc]
    rw [hzeros, ofDigits_append_replicate, ← ofDecimal_mul_pow negative (ofDigits ds) _
      (n - ds.length + 1), Option.getD_none]
    congr 1
    rw [List.length_singleton]
    omega

theorem writesDecimal_middle (hds : IsDigits ds) {n : Nat} (hpos : 0 < n) (hn : n < ds.length) :
    WritesDecimal (ds.take n ++ '.' :: ds.drop n) (ofDigits ds) (n - ds.length) := by
  obtain ⟨hne, hdigits⟩ := hds
  have hfraction : ds.drop n ≠ [] := by
    rw [Ne, List.drop_eq_nil_iff]
    omega
  refine ⟨ds.take n, ds.drop n, none, [], ?_, ⟨?_, fun c hc => hdigits c (List.mem_of_mem_take hc)⟩,
    fun c hc => hdigits c (List.mem_of_mem_drop hc), .none, .inl hfraction, fun negative => ?_⟩
  · rw [fractionText, if_neg (by rwa [List.isEmpty_iff]), List.append_nil]
  · rw [Ne, List.take_eq_nil_iff]
    simp [hne, hpos.ne']
  · rw [List.take_append_drop, List.length_drop, Option.getD_none]
    congr 1
    omega

theorem Decimal.writes_text {d : Decimal} (hd : IsDigits d.digits) :
    WritesDecimal d.text (ofDigits d.digits) (d.point - d.digits.length) := by
  obtain ⟨ds, p⟩ := d
  rw [Decimal.text]
  split
  · exact writesDecimal_exponent hd p
  · split
    · next hp => exact writesDecimal_small hd hp
    · next hp =>
      obtain ⟨n, rfl⟩ := Int.eq_ofNat_of_zero_le (Int.le_of_lt (Int.not_le.1 hp))
      simp only [Int.toNat_natCast]
      split
      · next hn => exact writesDecimal_whole hd hn
      · next hn =>
        have hpos : 0 < n := Int.natCast_pos.1 (Int.not_le.1 hp)
        exact writesDecimal_middle hd hpos (Nat.lt_of_not_le hn)

/-! ### Reading texts back -/

theorem trimZeros_append (digits : List Char) :
    ∃ n, digits = trimZeros digits ++ List.replicate n '0' := by
  refine ⟨(digits.reverse.takeWhile (· == '0')).length, ?_⟩
  have hzeros : digits.reverse.takeWhile (· == '0') =
      List.replicate (digits.reverse.takeWhile (· == '0')).length '0' := by
    refine List.eq_replicate_iff.2 ⟨rfl, fun c hc => ?_⟩
    simpa using List.mem_takeWhile_imp hc
  rw [trimZeros, ← List.reverse_replicate, ← List.reverse_append, ← hzeros,
    List.takeWhile_append_dropWhile, List.reverse_reverse]

theorem writes_shortest (hm : IsCanonical m e) (hpos : 0 < m) (hden : 0 < den)
    (hvalue : (num : ℚ) / den = m * 2 ^ e) :
    ∃ k q, WritesDecimal (shortestOfRatio (.finite false m e) num den).text k q ∧
      ofDecimal false k q = .finite false m e := by
  obtain ⟨k, q, hhit⟩ := exists_hit hm hpos hden hvalue
  have hread := ofDecimal_of_hit hhit
  have hk : 0 < k := by
    refine Nat.pos_of_ne_zero ?_
    rintro rfl
    rw [ofDecimal_zero] at hread
    cases hread
    exact hpos.false
  obtain ⟨n, htrim⟩ := trimZeros_append (Nat.toDigits 10 k)
  have htoDigits : ofDigits (Nat.toDigits 10 k) = k := Nat.ofDigitChars_ten_toDigits
  have hdigits : ofDigits (trimZeros (Nat.toDigits 10 k)) * 10 ^ n = k := by
    rw [← ofDigits_append_replicate, ← htrim, htoDigits]
  have hIsDigits : IsDigits (trimZeros (Nat.toDigits 10 k)) := by
    refine ⟨fun hnil => ?_, fun c hc => isDigit_toDigits (n := k) ?_⟩
    · rw [hnil, show ofDigits [] = 0 from rfl, Nat.zero_mul] at hdigits
      exact hk.ne hdigits
    · rw [htrim]
      exact List.mem_append_left _ hc
  have hlength : (Nat.toDigits 10 k).length = (trimZeros (Nat.toDigits 10 k)).length + n := by
    conv_lhs => rw [htrim, List.length_append, List.length_replicate]
  rw [shortestOfRatio_of_hit hhit, toList_toString_nat]
  refine ⟨_, _, Decimal.writes_text hIsDigits, ?_⟩
  rw [← ofDecimal_mul_pow _ _ _ n, hdigits, hlength]
  convert hread using 2
  push_cast
  ring

/-- The text of a finite number is a sign and a number of the grammar that is read as it. -/
theorem toList_text_finite (hm : IsCanonical m e) (negative : Bool) :
    ∃ s k q, (Binary64.finite negative m e).text.toList = signText negative ++ s ∧
      WritesDecimal s k q ∧ ofDecimal negative k q = .finite negative m e := by
  have hsigned (s : List Char) : (if negative then '-' :: s else s) = signText negative ++ s := by
    cases negative <;> rfl
  rcases Nat.eq_zero_or_pos m with rfl | hpos
  · obtain rfl : e = leastExponent := hm.le.resolve_right (by decide)
    refine ⟨['0', '.', '0'], 0, 0, ?_, writesDecimal_whole isDigits_zero (le_refl 1), rfl⟩
    rw [← hsigned, text, String.toList_ofList]
    rfl
  · have hvalue : ((scaleRatio m 1 (-e)).1 : ℚ) / (scaleRatio m 1 (-e)).2 = m * 2 ^ e := by
      rw [scaleRatio_value, Nat.cast_one, div_one, zpow_neg, div_inv_eq_mul]
    obtain ⟨k, q, hwrites, hread⟩ :=
      writes_shortest hm hpos (scaleRatio_pos m Nat.one_pos (-e)) hvalue
    refine ⟨_, k, q, ?_, hwrites, ?_⟩
    · have hzero : ¬ (m == 0) = true := by
        rw [beq_iff_eq]
        exact hpos.ne'
      rw [← hsigned, text, String.toList_ofList, if_neg hzero]
    · cases negative with
      | false => exact hread
      | true =>
        have hneg := ofDecimal_not false k q
        rw [hread] at hneg
        exact hneg

example : (ofDecimal true 25 (-8)).text = "-2.5e-07" := by decide +kernel

/-! ### Numbers that were read -/

def isFinite : Binary64 → Bool
  | .finite .. => true
  | _ => false

theorem isSigned_of_readDecimal? {s : List Char} {y : Binary64}
    (h : Numeral.readDecimal? negative s = some y) : IsSigned negative y := by
  rw [Numeral.readDecimal?] at h
  simp only [Option.bind_eq_bind, Option.bind_eq_some_iff] at h
  obtain ⟨-, -, exponent, -, h⟩ := h
  obtain rfl := Option.some.inj h
  exact isSigned_ofDecimal _ _ _

theorem isSigned_of_readBinary64? {s : String} {y : Binary64} (h : readBinary64? s = some y) :
    y = .nan ∨ ∃ negative, IsSigned negative y := by
  rw [readBinary64?] at h
  simp only [Option.bind_eq_bind, Option.bind_eq_some_iff] at h
  obtain ⟨text, -, h⟩ := h
  split_ifs at h
  · obtain rfl := Option.some.inj h
    exact .inr ⟨_, .inl rfl⟩
  · obtain rfl := Option.some.inj h
    exact .inl rfl
  · exact .inr ⟨_, isSigned_of_readDecimal? h⟩

end Grounding.Binary64

import Grounding.Proofs.Value.Inhabitants
import Mathlib

/-!
# Values that are told apart

Among the values of a type that may stand in a set, being equal is transitive: numbers are equal
when they lie at one place, and a place is a rational number or one of the two ends of the line. So
values that are apart from each other, and each of which equals one of some others, are no more
than these others.
-/

namespace Grounding

/-! ### Places -/

namespace Binary64.Place

theorem before_at_iff {a e b f : Int} :
    (Place.at a e).before (.at b f) = true ↔ (a : ℚ) * 2 ^ e < b * 2 ^ f := by
  -- both sides are scaled to the lesser exponent, where `before` compares integers
  have hscale : ∀ c g : Int, min e f ≤ g →
      (c : ℚ) * 2 ^ g = ((c * 2 ^ (g - min e f).toNat : Int) : ℚ) * 2 ^ min e f := by
    intro c g hg
    have hexp : (2 : ℚ) ^ g = 2 ^ (g - min e f).toNat * 2 ^ min e f := by
      rw [← zpow_natCast, Int.toNat_of_nonneg (by omega), ← zpow_add₀ (by norm_num)]
      congr 1
      omega
    rw [hexp]
    push_cast
    ring
  have hpos : (0 : ℚ) < 2 ^ min e f := by positivity
  rw [hscale a e (by omega), hscale b f (by omega), mul_lt_mul_iff_left₀ hpos, Int.cast_lt]
  simp only [before, decide_eq_true_eq]

theorem same_at_iff {a e b f : Int} :
    (Place.at a e).same (.at b f) = true ↔ (a : ℚ) * 2 ^ e = b * 2 ^ f := by
  rw [same, Bool.and_eq_true, Bool.not_eq_true', Bool.not_eq_true', ← Bool.not_eq_true,
    ← Bool.not_eq_true, before_at_iff, before_at_iff, not_lt, not_lt]
  exact ⟨fun h => le_antisymm h.2 h.1, fun h => ⟨h.ge, h.le⟩⟩

theorem same_trans {p q r : Place} (hpq : p.same q = true) (hqr : q.same r = true) :
    p.same r = true := by
  cases p <;> cases q
  case below.below => exact hqr
  case above.above => exact hqr
  case at.at =>
    rcases r with _ | ⟨c, g⟩ | _
    · cases hqr
    · rw [same_at_iff] at *
      exact hpq.trans hqr
    · cases hqr
  -- an end of the line is the same as itself only
  all_goals cases hpq

end Binary64.Place

namespace Value

/-! ### Transitivity -/

theorem samePlace_iff {x y : Value} :
    samePlace x y = true ↔ ∃ p q, x.place? = some p ∧ y.place? = some q ∧ p.same q = true := by
  unfold samePlace
  cases x.place? <;> cases y.place? <;> simp

theorem samePlace_trans {x y z : Value} (hxy : samePlace x y = true)
    (hyz : samePlace y z = true) : samePlace x z = true := by
  obtain ⟨p, q, hp, hq, hpq⟩ := samePlace_iff.1 hxy
  obtain ⟨q', r, hq', hr, hqr⟩ := samePlace_iff.1 hyz
  obtain rfl : q = q' := Option.some.inj (hq.symm.trans hq')
  exact samePlace_iff.2 ⟨p, r, hp, hr, Binary64.Place.same_trans hpq hqr⟩

theorem same_trans_of_admits {p : Primitive} {x y z : Value} (hx : p.Admits x) (hy : p.Admits y)
    (hz : p.Admits z) (hxy : same x y = true) (hyz : same y z = true) : same x z = true := by
  unfold Primitive.Admits at hx hy hz
  generalize p.scalar = k at hx hy hz
  cases hx <;> cases hy <;> cases hz
  case text.text.text => simp_all [same]
  case character.character.character => simp_all [same]
  -- a float that is no number has no place and equals only what bears its mark
  all_goals simp only [same] at hxy hyz ⊢
  case boolean.boolean.boolean => exact samePlace_trans hxy hyz
  case integral.integral.integral => exact samePlace_trans hxy hyz
  case floating.floating.floating => exact samePlace_trans hxy hyz
  all_goals simp_all [samePlace, place?]

theorem same_trans {d : Descriptor} {x y z : Value} (hx : x.Inhabits d) (hy : y.Inhabits d)
    (hz : z.Inhabits d) (hhash : x.isHashable = true) (hxy : same x y = true)
    (hyz : same y z = true) : same x z = true := by
  induction hx generalizing y z with
  | primitive hp =>
    cases hy with
    | primitive hq =>
      cases hz with
      | primitive hr => exact same_trans_of_admits hp hq hr hxy hyz
  | entity name type =>
    cases hy with
    | entity other _ =>
      cases hz with
      | entity third _ =>
        simp only [same, beq_iff_eq] at *
        exact hxy.trans hyz
  | list _ _ => cases hhash
  | set _ _ _ => cases hhash
  | map _ _ _ _ _ => cases hhash
  | pair _ _ iha ihb =>
    cases hy with
    | pair hya hyb =>
      cases hz with
      | pair hza hzb =>
        rw [isHashable_pair, Bool.and_eq_true] at hhash
        simp only [same, components?, Bool.and_eq_true] at *
        exact ⟨iha hya hza hhash.1 hxy.1 hyz.1, ihb hyb hzb hhash.2 hxy.2 hyz.2⟩

/-! ### Counting -/

theorem isAmong_iff {x : Value} {xs : List Value} :
    x.isAmong xs = true ↔ ∃ y ∈ xs, same x y = true := by
  rw [isAmong, List.any_eq_true]

theorem isAmong_iff_mem {d : Descriptor} {x : Value} {xs : List Value} (hx : x.Inhabits d)
    (hxs : ∀ y ∈ xs, y.Inhabits d) (hd : d.isFloatFree = true) (hhash : x.isHashable = true) :
    x.isAmong xs = true ↔ x ∈ xs := by
  rw [isAmong_iff]
  constructor
  · rintro ⟨y, hy, hxy⟩
    rw [eq_of_same hx (hxs y hy) hd hhash hxy]
    exact hy
  · exact fun hmem => ⟨x, hmem, same_self hx hd⟩

theorem length_le_of_isAmong {d : Descriptor} {xs ys : List Value} (hhash : d.isHashable = true)
    (hxs : ∀ x ∈ xs, x.Inhabits d) (hys : ∀ y ∈ ys, y.Inhabits d)
    (hapart : xs.Pairwise fun x y => same x y = false)
    (hamong : ∀ x ∈ xs, x.isAmong ys = true) : xs.length ≤ ys.length := by
  induction xs generalizing ys with
  | nil => exact Nat.zero_le _
  | cons x xs ih =>
    rw [List.forall_mem_cons] at hxs hamong
    rw [List.pairwise_cons] at hapart
    obtain ⟨y, hy, hxy⟩ := isAmong_iff.1 hamong.1
    -- what equals `y` equals `x` too, so the others are among the values that are left of `ys`
    obtain ⟨before, after, rfl⟩ := List.append_of_mem hy
    have hyd := hys y hy
    have hrest : ∀ z ∈ xs, z.isAmong (before ++ after) = true := by
      intro z hz
      have hzd := hxs.2 z hz
      obtain ⟨w, hw, hzw⟩ := isAmong_iff.1 (hamong.2 z hz)
      refine isAmong_iff.2 ⟨w, ?_, hzw⟩
      rw [List.mem_append, List.mem_cons] at hw
      rcases hw with hw | rfl | hw
      · exact List.mem_append_left _ hw
      · have hzhash := (isHashable_of_inhabits hzd).trans hhash
        have hxhash := (isHashable_of_inhabits hxs.1).trans hhash
        rw [same_comm hzd hyd hzhash] at hzw
        have hxz := same_trans hxs.1 hyd hzd hxhash hxy hzw
        rw [hapart.1 z hz] at hxz
        cases hxz
      · exact List.mem_append_right _ hw
    have hle := ih hxs.2 (fun w hw => hys w (by simp at hw ⊢; tauto)) hapart.2 hrest
    simp only [List.length_cons, List.length_append] at hle ⊢
    omega

end Value

end Grounding

import Grounding.Proofs.Value.Inhabitants
import Grounding.Value.Order
import Mathlib.Data.String.Basic
import Mathlib.Order.BooleanAlgebra.Basic

/-!
# Values in order

Integers, truth values, characters and texts are in a total order among themselves, and then so are
the pairs of such values, which are compared component by component. So a sequence of values of one
such type can be sorted, and what comes out does not depend on the order in which it was given
(`sortBy_eq_of_perm`).
-/

namespace Grounding

/-- Whether the values of a type are in a total order. -/
def Descriptor.isOrdered : Descriptor → Bool
  | primitive p => p.scalar != .floating
  | pair a b => a.isOrdered && b.isOrdered
  | external _ | list _ | set _ | map _ _ => false

theorem Descriptor.isFloatFree_of_isOrdered {d : Descriptor} (h : d.isOrdered = true) :
    d.isFloatFree = true := by
  induction d with
  | primitive p => exact h
  | external _ => rfl
  | list _ _ | set _ _ | map _ _ _ _ => cases h
  | pair a b iha ihb =>
    obtain ⟨ha, hb⟩ := Bool.and_eq_true_iff.1 h
    rw [isFloatFree, iha ha, ihb hb, Bool.and_self]

theorem Descriptor.isHashable_of_isOrdered {d : Descriptor} (h : d.isOrdered = true) :
    d.isHashable = true := by
  induction d with
  | primitive _ | external _ => rfl
  | list _ _ | set _ _ | map _ _ _ _ => cases h
  | pair a b iha ihb =>
    obtain ⟨ha, hb⟩ := Bool.and_eq_true_iff.1 h
    rw [isHashable, iha ha, ihb hb, Bool.and_self]

namespace Value

/-! ### Scalars -/

theorem before?_int (m n : Int) : before? (int m) (int n) = some (decide (m < n)) := by
  simp [before?, placeBefore?, isNumeric, place?, Binary64.Place.before]

theorem before?_text (s t : String) : before? (text s) (text t) = some (decide (s < t)) := rfl

theorem before?_bool (a b : Bool) : before? (bool a) (bool b) = some (decide (a < b)) := by
  cases a <;> cases b <;> rfl

/-! ### The order of the values of a type -/

/-- One value comes strictly before another. -/
def Precedes (x y : Value) : Prop := before? x y = some true

/-- The values of a type are in a strict total order. -/
structure TotallyOrdered (d : Descriptor) : Prop where
  decided : ∀ {x y : Value}, x.Inhabits d → y.Inhabits d → ∃ b, before? x y = some b
  irrefl : ∀ {x : Value}, x.Inhabits d → ¬ Precedes x x
  trans : ∀ {x y z : Value}, x.Inhabits d → y.Inhabits d → z.Inhabits d →
    Precedes x y → Precedes y z → Precedes x z
  connected : ∀ {x y : Value}, x.Inhabits d → y.Inhabits d →
    Precedes x y ∨ x = y ∨ Precedes y x

theorem totallyOrdered_of_linearOrder {α : Type} [LinearOrder α] {d : Descriptor} (f : α → Value)
    (hf : ∀ x : Value, x.Inhabits d → ∃ a, f a = x)
    (hbefore : ∀ a b, before? (f a) (f b) = some (decide (a < b))) : TotallyOrdered d := by
  have hprecedes : ∀ a b, Precedes (f a) (f b) ↔ a < b := by
    intro a b
    rw [Precedes, hbefore, Option.some.injEq, decide_eq_true_iff]
  refine ⟨fun {x y} hx hy => ?_, fun {x} hx => ?_, fun {x y z} hx hy hz => ?_,
    fun {x y} hx hy => ?_⟩
  · obtain ⟨a, rfl⟩ := hf x hx
    obtain ⟨b, rfl⟩ := hf y hy
    exact ⟨_, hbefore a b⟩
  · obtain ⟨a, rfl⟩ := hf x hx
    rw [hprecedes]
    exact lt_irrefl a
  · obtain ⟨a, rfl⟩ := hf x hx
    obtain ⟨b, rfl⟩ := hf y hy
    obtain ⟨c, rfl⟩ := hf z hz
    rw [hprecedes, hprecedes, hprecedes]
    exact lt_trans
  · obtain ⟨a, rfl⟩ := hf x hx
    obtain ⟨b, rfl⟩ := hf y hy
    rw [hprecedes, hprecedes]
    rcases lt_trichotomy a b with hlt | rfl | hgt
    · exact .inl hlt
    · exact .inr (.inl rfl)
    · exact .inr (.inr hgt)

theorem totallyOrdered_primitive {p : Primitive} (hp : p.scalar ≠ .floating) :
    TotallyOrdered (.primitive p) := by
  have hscalar : ∀ x : Value, x.Inhabits (.primitive p) → p.scalar.Admits x := by
    intro x hx
    cases hx with
    | primitive hadmits => exact hadmits
  generalize p.scalar = k at hp hscalar
  cases k with
  | text | character =>
    refine totallyOrdered_of_linearOrder text (fun x hx => ?_) before?_text
    cases hscalar x hx
    exact ⟨_, rfl⟩
  | boolean =>
    refine totallyOrdered_of_linearOrder bool (fun x hx => ?_) before?_bool
    cases hscalar x hx
    exact ⟨_, rfl⟩
  | integral =>
    refine totallyOrdered_of_linearOrder int (fun x hx => ?_) before?_int
    cases hscalar x hx
    exact ⟨_, rfl⟩
  | floating => exact absurd rfl hp

/-! ### Pairs -/

theorem same_iff_eq_of_isOrdered {d : Descriptor} {x y : Value} (hd : d.isOrdered = true)
    (hx : x.Inhabits d) (hy : y.Inhabits d) : same x y = true ↔ x = y := by
  have hfloat := Descriptor.isFloatFree_of_isOrdered hd
  have hhash : x.isHashable = true := by
    rw [isHashable_of_inhabits hx, Descriptor.isHashable_of_isOrdered hd]
  constructor
  · exact eq_of_same hx hy hfloat hhash
  · rintro rfl
    exact same_self hx hfloat

section pair

variable {d e : Descriptor} {a a' b b' : Value}

theorem before?_pair_of_eq (hd : d.isOrdered = true) (he : e.isOrdered = true)
    (horder : TotallyOrdered e) (ha : a.Inhabits d) (hb : b.Inhabits e) (hb' : b'.Inhabits e) :
    before? (pair a b) (pair a b') = before? b b' := by
  simp only [before?, components?]
  rw [if_pos ((same_iff_eq_of_isOrdered hd ha ha).2 rfl)]
  by_cases hbb : b = b'
  · subst hbb
    obtain ⟨r, hr⟩ := horder.decided hb hb
    have hfalse : r ≠ true := by
      rintro rfl
      exact horder.irrefl hb hr
    rw [if_pos ((same_iff_eq_of_isOrdered he hb hb).2 rfl), hr, Bool.eq_false_iff.2 hfalse]
    rfl
  · rw [if_neg fun h => hbb ((same_iff_eq_of_isOrdered he hb hb').1 h)]

theorem before?_pair_of_ne (hd : d.isOrdered = true) (ha : a.Inhabits d) (ha' : a'.Inhabits d)
    (hne : a ≠ a') (b b' : Value) : before? (pair a b) (pair a' b') = before? a a' := by
  simp only [before?, components?]
  rw [if_neg fun h => hne ((same_iff_eq_of_isOrdered hd ha ha').1 h)]

theorem totallyOrdered_pair (hd : d.isOrdered = true) (he : e.isOrdered = true)
    (hfirst : TotallyOrdered d) (hsecond : TotallyOrdered e) : TotallyOrdered (.pair d e) := by
  have hprecedes : ∀ {a a' b b' : Value}, a.Inhabits d → a'.Inhabits d → b.Inhabits e →
      b'.Inhabits e →
        (Precedes (pair a b) (pair a' b') ↔ Precedes a a' ∨ a = a' ∧ Precedes b b') := by
    intro a a' b b' ha ha' hb hb'
    by_cases haa : a = a'
    · subst haa
      rw [Precedes, before?_pair_of_eq hd he hsecond ha hb hb']
      exact ⟨fun h => .inr ⟨rfl, h⟩, fun h => (h.resolve_left (hfirst.irrefl ha)).2⟩
    · rw [Precedes, before?_pair_of_ne hd ha ha' haa]
      exact ⟨.inl, fun h => h.resolve_right fun hsame => haa hsame.1⟩
  refine ⟨fun {x y} hx hy => ?_, fun {x} hx => ?_, fun {x y z} hx hy hz hxy hyz => ?_,
    fun {x y} hx hy => ?_⟩
  · cases hx with | pair ha hb =>
    cases hy with | @pair a' b' _ _ ha' hb' =>
    rename_i a b
    by_cases haa : a = a'
    · subst haa
      rw [before?_pair_of_eq hd he hsecond ha hb hb']
      exact hsecond.decided hb hb'
    · rw [before?_pair_of_ne hd ha ha' haa]
      exact hfirst.decided ha ha'
  · cases hx with | pair ha hb =>
    rw [hprecedes ha ha hb hb]
    rintro (h | ⟨-, h⟩)
    · exact hfirst.irrefl ha h
    · exact hsecond.irrefl hb h
  · cases hx with | pair ha hb =>
    cases hy with | pair ha' hb' =>
    cases hz with | pair ha'' hb'' =>
    rw [hprecedes ha ha' hb hb'] at hxy
    rw [hprecedes ha' ha'' hb' hb''] at hyz
    rw [hprecedes ha ha'' hb hb'']
    rcases hxy with hxy | ⟨rfl, hxy⟩
    · rcases hyz with hyz | ⟨rfl, -⟩
      · exact .inl (hfirst.trans ha ha' ha'' hxy hyz)
      · exact .inl hxy
    · rcases hyz with hyz | ⟨rfl, hyz⟩
      · exact .inl hyz
      · exact .inr ⟨rfl, hsecond.trans hb hb' hb'' hxy hyz⟩
  · cases hx with | pair ha hb =>
    cases hy with | pair ha' hb' =>
    rw [hprecedes ha ha' hb hb', hprecedes ha' ha hb' hb]
    rcases hfirst.connected ha ha' with h | rfl | h
    · exact .inl (.inl h)
    · rcases hsecond.connected hb hb' with h | rfl | h
      · exact .inl (.inr ⟨rfl, h⟩)
      · exact .inr (.inl rfl)
      · exact .inr (.inr (.inr ⟨rfl, h⟩))
    · exact .inr (.inr (.inl h))

end pair

theorem totallyOrdered_of_isOrdered {d : Descriptor} (h : d.isOrdered = true) :
    TotallyOrdered d := by
  induction d with
  | primitive p => exact totallyOrdered_primitive (bne_iff_ne.1 h)
  | external _ | list _ _ | set _ _ | map _ _ _ _ => cases h
  | pair a b iha ihb =>
    obtain ⟨ha, hb⟩ := Bool.and_eq_true_iff.1 h
    exact totallyOrdered_pair ha hb (iha ha) (ihb hb)

/-! ### Sorting -/

theorem sortBy_perm {α : Type} (key : α → Value) (as : List α) : (sortBy key as).Perm as := by
  unfold sortBy
  split
  · exact List.mergeSort_perm _ _
  · exact .refl _

theorem sortBy_map {α β : Type} (key : β → Value) (f : α → β) (as : List α) :
    sortBy key (as.map f) = (sortBy (fun a => key (f a)) as).map f := by
  have hkeys : (as.map f).map key = as.map fun a => key (f a) := List.map_map
  rw [sortBy, sortBy, hkeys]
  split
  · exact (List.map_mergeSort (f := f) fun _ _ _ _ => rfl).symm
  · rfl

section sorting

variable {d : Descriptor} {xs ys : List Value}

theorem comparable_of_totallyOrdered (hd : TotallyOrdered d) (hxs : ∀ x ∈ xs, x.Inhabits d) :
    comparable xs = true := by
  have hsome : ∀ {x y : Value}, x.Inhabits d → y.Inhabits d → (before? x y).isSome = true := by
    intro x y hx hy
    obtain ⟨b, hb⟩ := hd.decided hx hy
    rw [hb, Option.isSome_some]
  induction xs with
  | nil => rfl
  | cons x xs ih =>
    rw [List.forall_mem_cons] at hxs
    rw [comparable, ih hxs.2, Bool.and_true, List.all_eq_true]
    intro y hy
    rw [hsome hxs.1 (hxs.2 y hy), hsome (hxs.2 y hy) hxs.1, Bool.and_self]

theorem pairwise_sortBy (hd : TotallyOrdered d) (hxs : ∀ x ∈ xs, x.Inhabits d) :
    (sortBy id xs).Pairwise fun x y => ¬ Precedes y x := by
  have hcomparable : comparable (xs.map id) = true := by
    rw [List.map_id]
    exact comparable_of_totallyOrdered hd hxs
  -- only the values of the type are in order, so the values are sorted as members of the type
  let le : {x : Value // x.Inhabits d} → {x : Value // x.Inhabits d} → Bool :=
    fun x y => before? y.1 x.1 != some true
  have hle : ∀ x y, le x y = true ↔ ¬ Precedes y.1 x.1 := fun x y => bne_iff_ne
  have htotal : ∀ x y, (le x y || le y x) = true := by
    intro x y
    rw [Bool.or_eq_true, hle, hle]
    by_contra hboth
    rw [not_or, not_not, not_not] at hboth
    exact hd.irrefl y.2 (hd.trans y.2 x.2 y.2 hboth.1 hboth.2)
  have htrans : ∀ x y z, le x y = true → le y z = true → le x z = true := by
    intro x y z hxy hyz
    rw [hle] at hxy hyz ⊢
    intro hzx
    rcases hd.connected x.2 y.2 with h | h | h
    · exact hyz (hd.trans z.2 x.2 y.2 hzx h)
    · exact hyz (h ▸ hzx)
    · exact hxy h
  have hsort : ((xs.attachWith _ hxs).mergeSort le).map Subtype.val = sortBy id xs := by
    rw [sortBy, if_pos hcomparable, List.map_mergeSort (r := le) (f := Subtype.val)
      (s := fun x y => before? y x != some true) fun _ _ _ _ => rfl,
      List.attachWith_map_subtype_val]
    rfl
  rw [← hsort, List.pairwise_map]
  exact (List.pairwise_mergeSort htrans htotal _).imp fun h => (hle _ _).1 h

/-- Values in a total order are sorted alike, whatever order they come in. -/
theorem sortBy_eq_of_perm (hd : TotallyOrdered d) (hxs : ∀ x ∈ xs, x.Inhabits d)
    (hperm : ys.Perm xs) : sortBy id ys = sortBy id xs := by
  have hys : ∀ y ∈ ys, y.Inhabits d := fun y hy => hxs y (hperm.mem_iff.1 hy)
  have hsorted : (sortBy id ys).Perm (sortBy id xs) :=
    (sortBy_perm id ys).trans (hperm.trans (sortBy_perm id xs).symm)
  refine List.Perm.eq_of_pairwise ?_ (pairwise_sortBy hd hys) (pairwise_sortBy hd hxs) hsorted
  intro y x hy hx hyx hxy
  have hy' := hys y ((sortBy_perm id ys).mem_iff.1 hy)
  have hx' := hxs x ((sortBy_perm id xs).mem_iff.1 hx)
  rcases hd.connected hy' hx' with h | h | h
  · exact absurd h hxy
  · exact h
  · exact absurd h hyx

end sorting

end Value

end Grounding

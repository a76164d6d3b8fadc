import Grounding.Descriptor.Basic
import Grounding.Proofs.Value.Collections
import Mathlib.Data.List.Forall2

/-!
# The values of a type

Which values a descriptor describes. Without floats, a value of a type equals itself, and values
that may stand in a set are equal only if they are the same.
-/

namespace Grounding

/-- The values of each sort of primitive type. -/
inductive Primitive.Scalar.Admits : Scalar → Value → Prop
  | text (s : String) : Admits .text (.text s)
  | character (c : Char) : Admits .character (.text (String.singleton c))
  | boolean (b : Bool) : Admits .boolean (.bool b)
  | integral (n : Int) : Admits .integral (.int n)
  | floating (y : Binary64) : Admits .floating (.float y)
  | nan (mark : Nat) : Admits .floating (.nan mark)

def Primitive.Admits (p : Primitive) (x : Value) : Prop := p.scalar.Admits x

namespace Value

/-- The values of a type. -/
inductive Inhabits : Value → Descriptor → Prop
  | primitive {p : Primitive} {x : Value} : p.Admits x → Inhabits x (.primitive p)
  | entity (name type : String) : Inhabits (.entity name) (.external type)
  | list {xs : List Value} {e : Descriptor} :
      (∀ x ∈ xs, Inhabits x e) → Inhabits (.list xs) (.list e)
  | set {xs : List Value} {e : Descriptor} :
      (∀ x ∈ xs, Inhabits x e) → Distinct xs → Inhabits (.set xs) (.set e)
  | map {es : List (Value × Value)} {k v : Descriptor} :
      (∀ e ∈ es, Inhabits e.1 k) → (∀ e ∈ es, Inhabits e.2 v) → Distinct (es.map Prod.fst) →
        Inhabits (.map es) (.map k v)
  | pair {x y : Value} {a b : Descriptor} :
      Inhabits x a → Inhabits y b → Inhabits (.pair x y) (.pair a b)

end Value

/-- Whether no floating-point numbers occur in the values of a type. -/
def Descriptor.isFloatFree : Descriptor → Bool
  | primitive p => p.scalar != .floating
  | external _ => true
  | list e | set e => e.isFloatFree
  | map k v | pair k v => k.isFloatFree && v.isFloatFree

/-- Whether the values of a type may stand in a set. -/
def Descriptor.isHashable : Descriptor → Bool
  | primitive _ | external _ => true
  | list _ | set _ | map _ _ => false
  | pair a b => a.isHashable && b.isHashable

namespace Value

/-! ### Hashes -/

theorem isHashable_pair (x y : Value) :
    (pair x y).isHashable = (x.isHashable && y.isHashable) := by
  simp only [isHashable, unhashable?, Option.isNone_or]

theorem isHashable_of_admits {p : Primitive} {x : Value} (h : p.Admits x) :
    x.isHashable = true := by
  unfold Primitive.Admits at h
  generalize p.scalar = k at h
  cases h <;> rfl

theorem isHashable_of_inhabits {d : Descriptor} {x : Value} (h : x.Inhabits d) :
    x.isHashable = d.isHashable := by
  induction h with
  | primitive hp => exact isHashable_of_admits hp
  | entity name type => rfl
  | list _ _ => rfl
  | set _ _ _ => rfl
  | map _ _ _ _ _ => rfl
  | pair _ _ iha ihb => rw [isHashable_pair, Descriptor.isHashable, iha, ihb]

/-! ### Equality of sequences, sets and maps -/

theorem sameItems_iff {xs ys : List Value} :
    sameItems xs ys = true ↔ List.Forall₂ (fun x y => same x y = true) xs ys := by
  induction xs generalizing ys with
  | nil => cases ys <;> simp [sameItems]
  | cons x xs ih => cases ys <;> simp [sameItems, ih]

theorem within_iff {xs ys : List Value} :
    within xs ys = true ↔ ∀ x ∈ xs, ∃ y ∈ ys, same x y = true := by
  induction xs with
  | nil => simp [within]
  | cons x xs ih => simp [within, ih]

theorem entriesWithin_iff {es fs : List (Value × Value)} :
    entriesWithin es fs = true ↔
      ∀ e ∈ es, ∃ f ∈ fs, same e.1 f.1 = true ∧ same e.2 f.2 = true := by
  induction es with
  | nil => simp [entriesWithin]
  | cons e es ih =>
    obtain ⟨k, x⟩ := e
    simp only [entriesWithin, Bool.and_eq_true, List.any_eq_true, ih, List.forall_mem_cons]

/-! ### Equality of values of one type -/

theorem samePlace_int {m n : Int} : samePlace (int m) (int n) = true ↔ m = n := by
  simp only [samePlace, place?, Binary64.Place.same, Binary64.Place.before]
  simp
  omega

theorem samePlace_bool {a b : Bool} : samePlace (bool a) (bool b) = true ↔ a = b := by
  cases a <;> cases b <;> decide

theorem same_iff_eq_of_admits {p : Primitive} {x y : Value} (hp : p.scalar ≠ .floating)
    (hx : p.Admits x) (hy : p.Admits y) : same x y = true ↔ x = y := by
  unfold Primitive.Admits at hx hy
  generalize p.scalar = k at hp hx hy
  cases hx with
  | text s => cases hy; simp [same]
  | character c => cases hy; simp [same]
  | boolean b => cases hy; simp [same, samePlace_bool]
  | integral n => cases hy; simp [same, samePlace_int]
  | floating y => exact absurd rfl hp
  | nan mark => exact absurd rfl hp

theorem same_self {d : Descriptor} {x : Value} (h : x.Inhabits d) (hd : d.isFloatFree = true) :
    same x x = true := by
  induction h with
  | primitive hp => exact (same_iff_eq_of_admits (bne_iff_ne.1 hd) hp hp).2 rfl
  | entity name type => simp [same]
  | list _ ih =>
    simp only [same, sameItems_iff, List.forall₂_same]
    exact fun x hx => ih x hx hd
  | set _ _ ih =>
    simp only [same, BEq.rfl, Bool.true_and, within_iff]
    exact fun x hx => ⟨x, hx, ih x hx hd⟩
  | map _ _ _ ihk ihv =>
    obtain ⟨hk, hv⟩ := Bool.and_eq_true_iff.1 hd
    simp only [same, BEq.rfl, Bool.true_and, entriesWithin_iff]
    exact fun e he => ⟨e, he, ihk e he hk, ihv e he hv⟩
  | pair _ _ iha ihb =>
    obtain ⟨ha, hb⟩ := Bool.and_eq_true_iff.1 hd
    simp only [same, components?, iha ha, ihb hb, Bool.and_self]

theorem same_set_of_perm {d : Descriptor} {xs ys : List Value} (hperm : ys.Perm xs)
    (hxs : ∀ x ∈ xs, x.Inhabits d) (hd : d.isFloatFree = true) : same (set ys) (set xs) = true := by
  simp only [same, hperm.length_eq, BEq.rfl, Bool.true_and, within_iff]
  intro y hy
  have hmem := hperm.mem_iff.1 hy
  exact ⟨y, hmem, same_self (hxs y hmem) hd⟩

/-- Without floats, equal values that may stand in a set are the same. -/
theorem eq_of_same {d : Descriptor} {x y : Value} (hx : x.Inhabits d) (hy : y.Inhabits d)
    (hd : d.isFloatFree = true) (hhash : x.isHashable = true) (h : same x y = true) : x = y := by
  induction hx generalizing y with
  | primitive hp =>
    cases hy with
    | primitive hq => exact (same_iff_eq_of_admits (bne_iff_ne.1 hd) hp hq).1 h
  | entity name type =>
    cases hy with
    | entity other _ => simpa [same] using h
  | list _ _ => cases hhash
  | set _ _ _ => cases hhash
  | map _ _ _ _ _ => cases hhash
  | pair _ _ iha ihb =>
    cases hy with
    | pair ha' hb' =>
      obtain ⟨ha, hb⟩ := Bool.and_eq_true_iff.1 hd
      rw [isHashable_pair, Bool.and_eq_true] at hhash
      simp only [same, components?, Bool.and_eq_true] at h
      rw [iha ha' ha hhash.1 h.1, ihb hb' hb hhash.2 h.2]

/-! ### Distinct values -/

theorem samePlace_comm (x y : Value) : samePlace x y = samePlace y x := by
  unfold samePlace
  cases x.place? with
  | none => cases y.place? <;> rfl
  | some p =>
    cases y.place? with
    | none => rfl
    | some q => simp only [Binary64.Place.same, Bool.and_comm]

theorem same_comm_of_admits {p : Primitive} {x y : Value} (hx : p.Admits x) (hy : p.Admits y) :
    same x y = same y x := by
  unfold Primitive.Admits at hx hy
  generalize p.scalar = k at hx hy
  cases hx with
  | text s =>
    cases hy
    rw [same, same, Bool.beq_comm]
  | character c =>
    cases hy
    rw [same, same, Bool.beq_comm]
  | boolean b =>
    cases hy
    rw [same, same, samePlace_comm]
  | integral n =>
    cases hy
    rw [same, same, samePlace_comm]
  | floating x =>
    cases hy with
    | floating y => rw [same, same, samePlace_comm]
    | nan m =>
      simp only [same, samePlace, place?]
      cases x.place? <;> rfl
  | nan m =>
    cases hy with
    | floating y =>
      simp only [same, samePlace, place?]
      cases y.place? <;> rfl
    | nan n => rw [same, same, Bool.beq_comm]

theorem same_comm {d : Descriptor} {x y : Value} (hx : x.Inhabits d) (hy : y.Inhabits d)
    (hhash : x.isHashable = true) : same x y = same y x := by
  induction hx generalizing y with
  | primitive hp =>
    cases hy with
    | primitive hq => exact same_comm_of_admits hp hq
  | entity name type =>
    cases hy with
    | entity other _ => rw [same, same, Bool.beq_comm]
  | list _ _ => cases hhash
  | set _ _ _ => cases hhash
  | map _ _ _ _ _ => cases hhash
  | pair _ _ iha ihb =>
    cases hy with
    | pair ha hb =>
      rw [isHashable_pair, Bool.and_eq_true] at hhash
      simp only [same, components?, iha ha hhash.1, ihb hb hhash.2]

theorem Distinct.perm {d : Descriptor} {xs ys : List Value} (h : Distinct xs) (hperm : ys.Perm xs)
    (hxs : ∀ x ∈ xs, x.Inhabits d) : Distinct ys := by
  have hboth : xs.Pairwise fun x y => same y x = false ∧ same x y = false :=
    h.apart.imp_of_mem fun hx hy hxy => ⟨hxy, same_comm (hxs _ hx) (hxs _ hy) (h.hashable _ hx) ▸ hxy⟩
  have hpairs : ys.Pairwise fun x y => same y x = false ∧ same x y = false :=
    hperm.symm.pairwise hboth fun hxy => hxy.symm
  exact ⟨fun y hy => h.hashable y (hperm.mem_iff.1 hy), hpairs.imp And.left⟩

end Value

end Grounding

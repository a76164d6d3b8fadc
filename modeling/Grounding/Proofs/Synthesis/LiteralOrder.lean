import Grounding.Proofs.Synthesis.LiteralShape
import Grounding.Proofs.Value.Reordering
import Mathlib.Data.List.Permutation

/-!
# Literals of sets in order

A set is gone through in an order that nothing fixes. Where its members are in a total order, they
are written in that order, so that the literal of the set, and of every value that holds such sets,
is the same each time it is written (`sets_written_in_order`).
-/

namespace Grounding

/-- Whether the members of all sets in the values of a type are in a total order. -/
def Descriptor.hasOrderedSets : Descriptor → Bool
  | primitive _ | external _ => true
  | set e => e.isOrdered
  | list e => e.hasOrderedSets
  | map k v | pair k v => k.hasOrderedSets && v.hasOrderedSets

namespace Value

open Itemwise

variable {d : Descriptor} {xs ys : List Value}

/-! ### Sets -/

theorem exists_ascending (hd : d.isOrdered = true) (hxs : ∀ x ∈ xs, x.Inhabits d)
    (hdistinct : Distinct xs) : ∃ zs : List Value, zs.Perm xs ∧ zs.Pairwise Precedes ∧
      ∀ ys : List Value, ys.Perm xs → (set ys).literalChars = (list zs).literalChars := by
  have horder := totallyOrdered_of_isOrdered hd
  have hperm := sortBy_perm id xs
  have hmembers : ∀ z ∈ sortBy id xs, z.Inhabits d := fun z hz => hxs z (hperm.mem_iff.1 hz)
  refine ⟨sortBy id xs, hperm, ?_, fun ys hys => ?_⟩
  · have hapart := (hdistinct.perm hperm hxs).apart
    refine (hapart.and (pairwise_sortBy horder hxs)).imp_of_mem ?_
    rintro x y hx hy ⟨hxy, hyx⟩
    rcases horder.connected (hmembers x hx) (hmembers y hy) with h | rfl | h
    · exact h
    · rw [same_self (hmembers x hx) (Descriptor.isFloatFree_of_isOrdered hd)] at hxy
      cases hxy
    · exact absurd h hyx
  · rw [literalChars_set, sortBy_eq_of_perm horder hxs hys]

/-! ### Values that hold sets -/

theorem areWritable_eq (xs : List Value) : areWritable xs = (xs.map isWritable).all id := by
  induction xs with
  | nil => rfl
  | cons x xs ih =>
    rw [areWritable, ih]
    rfl

theorem entriesAreWritable_eq (es : List (Value × Value)) : entriesAreWritable es =
    (es.map fun e => e.1.isWritable && e.2.isWritable).all id := by
  induction es with
  | nil => rfl
  | cons e es ih =>
    rw [entriesAreWritable, ih]
    rfl

section parts

variable {γ : Type}

theorem map_eq_of_forall₂ {f : Value → γ} (h : List.Forall₂ Reordered xs ys)
    (hf : ∀ x ∈ xs, ∀ y, x.Reordered y → f y = f x) : ys.map f = xs.map f :=
  map_eq_map_iff_forall₂.2 (forall₂_imp_of_mem h hf).flip

theorem map_entries_eq (f : Value → γ → γ) (g : Value → γ) (es : List (Value × Value)) :
    es.map (fun e => f e.1 (g e.2)) =
      List.zipWith f (es.map Prod.fst) ((es.map Prod.snd).map g) := by
  induction es with
  | nil => rfl
  | cons e es ih =>
    rw [List.map_cons, ih]
    rfl

theorem map_entries_of_forall₂ {es fs : List (Value × Value)} (f : Value → γ → γ) {g : Value → γ}
    (hkeys : es.map Prod.fst = fs.map Prod.fst)
    (h : List.Forall₂ Reordered (es.map Prod.snd) (fs.map Prod.snd))
    (hg : ∀ e ∈ es, ∀ y, e.2.Reordered y → g y = g e.2) :
    fs.map (fun e => f e.1 (g e.2)) = es.map fun e => f e.1 (g e.2) := by
  rw [map_entries_eq, map_entries_eq, hkeys, map_eq_of_forall₂ h (List.forall_mem_map.2 hg)]

end parts

/-- What is written of a value does not depend on the order in which its sets come, nor does it
whether the value can be written. -/
theorem written_of_reordered {x y : Value} (h : x.Inhabits d) (hd : d.hasOrderedSets = true)
    (hxy : x.Reordered y) :
    y.literalChars = x.literalChars ∧ y.isWritable = x.isWritable := by
  induction h generalizing y with
  | primitive hp =>
    rw [hxy.eq_of_admits hp]
    exact ⟨rfl, rfl⟩
  | entity name type =>
    cases hxy
    exact ⟨rfl, rfl⟩
  | list hxs ih =>
    cases hxy with
    | refl => exact ⟨rfl, rfl⟩
    | list hitems =>
      rw [literalChars_list, literalChars_list, isWritable, isWritable, areWritable_eq,
        areWritable_eq, map_eq_of_forall₂ hitems fun x hx y h => (ih x hx hd h).1,
        map_eq_of_forall₂ hitems fun x hx y h => (ih x hx hd h).2]
      exact ⟨rfl, rfl⟩
  | set hxs hdistinct ih =>
    cases hxy with
    | refl => exact ⟨rfl, rfl⟩
    | set hperm =>
      obtain ⟨zs, -, -, hzs⟩ := exists_ascending hd hxs hdistinct
      rw [hzs _ hperm, hzs _ (.refl _), isWritable, isWritable, areWritable_eq, areWritable_eq,
        (hperm.map isWritable).all_eq]
      exact ⟨rfl, rfl⟩
  | map hk hv hdistinct ihk ihv =>
    cases hxy with
    | refl => exact ⟨rfl, rfl⟩
    | map hkeys hitems =>
      obtain ⟨-, hdv⟩ := Bool.and_eq_true_iff.1 hd
      have hliterals := map_entries_of_forall₂ (fun k s => k.literalChars ++ '=' :: s) hkeys hitems
        fun e he y h => (ihv e he hdv h).1
      have hwritable := map_entries_of_forall₂ (fun k b => k.isWritable && b) hkeys hitems
        fun e he y h => (ihv e he hdv h).2
      rw [literalChars_map, literalChars_map, hliterals, isWritable, isWritable,
        entriesAreWritable_eq, entriesAreWritable_eq, hwritable]
      exact ⟨rfl, rfl⟩
  | pair ha hb iha ihb =>
    cases hxy with
    | refl => exact ⟨rfl, rfl⟩
    | pair hx hy =>
      obtain ⟨hda, hdb⟩ := Bool.and_eq_true_iff.1 hd
      rw [literalChars, literalChars, (iha hda hx).1, (ihb hdb hy).1, isWritable, isWritable,
        (iha hda hx).2, (ihb hdb hy).2]
      exact ⟨rfl, rfl⟩

/-- A set of scalars other than floats, or of pairs of such, is written as the list of its members
in ascending order, whatever order it yields them in. So a value that holds such sets, however deep,
is written alike whichever order each of them comes in, and is refused alike. -/
theorem sets_written_in_order :
    (∀ (e : Descriptor) (xs : List Value), e.isOrdered = true → (set xs).Inhabits (.set e) →
      ∃ zs : List Value, zs.Perm xs ∧ zs.Pairwise Precedes ∧
        ∀ ys : List Value, ys.Perm xs → (set ys).literal = (list zs).literal) ∧
    ∀ (d : Descriptor) (x y : Value), d.hasOrderedSets = true → x.Inhabits d → x.Reordered y →
      y.literal = x.literal ∧ y.isWritable = x.isWritable := by
  constructor
  · intro e xs he hset
    cases hset with
    | set hxs hdistinct =>
      obtain ⟨zs, hperm, hascending, hliteral⟩ := exists_ascending he hxs hdistinct
      exact ⟨zs, hperm, hascending, fun ys hys => congrArg String.ofList (hliteral ys hys)⟩
  · intro d x y hd hx hxy
    obtain ⟨hliteral, hwritable⟩ := written_of_reordered hx hd hxy
    exact ⟨congrArg String.ofList hliteral, hwritable⟩

/-- A map with a set of pairs, which are compared by their numbers where the truth values agree. -/
theorem sets_written_in_order_pairs :
    let e : Descriptor := .pair (.primitive .boolean) (.primitive .integer)
    let xs := [pair (bool true) (int 10), pair (bool false) (int 3), pair (bool true) (int 2)]
    let ys := [pair (bool true) (int 2), pair (bool true) (int 10), pair (bool false) (int 3)]
    e.isOrdered = true ∧ (set xs).Inhabits (.set e) ∧
      (∃ zs : List Value, zs.Perm xs ∧ zs.Pairwise Precedes ∧
        (set xs).literal = (list zs).literal) ∧
      (map [(text "k", set xs)]).Reordered (map [(text "k", set ys)]) ∧
      (map [(text "k", set ys)]).literal = (map [(text "k", set xs)]).literal ∧
      (map [(text "k", set xs)]).literal = "\x7bk=[false=3, true=2, true=10]\x7d" := by
  intro e xs ys
  have hmember : ∀ (b : Bool) (n : Int), (pair (bool b) (int n)).Inhabits e := fun b n =>
    .pair (.primitive (.boolean b)) (.primitive (.integral n))
  have hset : (set xs).Inhabits (.set e) := by
    refine .set ?_ ⟨by decide, by decide +kernel⟩
    simp only [xs, List.forall_mem_cons]
    exact ⟨hmember _ _, hmember _ _, hmember _ _, List.forall_mem_nil _⟩
  have hmap : (map [(text "k", set xs)]).Inhabits (.map (.primitive .string) (.set e)) := by
    refine .map ?_ ?_ (distinct_singleton rfl)
    · rw [List.forall_mem_singleton]
      exact .primitive (.text "k")
    · rw [List.forall_mem_singleton]
      exact hset
  have hperm : ys.Perm xs := (List.perm_append_singleton _ _).symm
  have hreordered : (map [(text "k", set xs)]).Reordered (map [(text "k", set ys)]) :=
    .map rfl (.cons (.set hperm) .nil)
  obtain ⟨zs, hzs, hascending, hliteral⟩ := sets_written_in_order.1 e xs rfl hset
  exact ⟨rfl, hset, ⟨zs, hzs, hascending, hliteral xs (.refl xs)⟩, hreordered,
    (sets_written_in_order.2 _ _ _ rfl hmap hreordered).1, by cbv⟩

end Value

end Grounding

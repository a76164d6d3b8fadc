import Grounding.Value.Equality

/-!
# Sets and maps that are built up

A set takes in its members one after another, and a map its entries. What is there stays where it
is, and no two members or keys are equal.
-/

namespace Grounding.Value

/-- Values that are the members of a set or the keys of a map. -/
structure Distinct (xs : List Value) : Prop where
  hashable : ∀ x ∈ xs, x.isHashable = true
  apart : xs.Pairwise fun x y => same y x = false

theorem distinct_nil : Distinct [] := ⟨List.forall_mem_nil _, .nil⟩

theorem distinct_singleton {x : Value} (h : x.isHashable = true) : Distinct [x] :=
  ⟨List.forall_mem_singleton.2 h, List.pairwise_singleton _ _⟩

theorem Distinct.sublist {xs ys : List Value} (h : Distinct xs) (hsub : ys.Sublist xs) :
    Distinct ys :=
  ⟨fun y hy => h.hashable y (hsub.subset hy), h.apart.sublist hsub⟩

/-! ### Sets -/

theorem forall_mem_insertMember {P : Value → Prop} {x : Value} {xs : List Value} (hx : P x)
    (hxs : ∀ y ∈ xs, P y) : ∀ y ∈ x.insertMember xs, P y := by
  unfold insertMember
  split
  · exact hxs
  · intro y hy
    rw [List.mem_append, List.mem_singleton] at hy
    rcases hy with hy | rfl
    · exact hxs y hy
    · exact hx

theorem Distinct.insertMember {x : Value} {xs : List Value} (h : Distinct xs)
    (hx : x.isHashable = true) : Distinct (x.insertMember xs) := by
  refine ⟨forall_mem_insertMember hx h.hashable, ?_⟩
  unfold Value.insertMember
  split
  · exact h.apart
  · next hnone =>
    rw [isAmong, List.any_eq_true, not_exists] at hnone
    rw [List.pairwise_append]
    refine ⟨h.apart, List.pairwise_singleton _ _, fun y hy z hz => ?_⟩
    rw [List.mem_singleton.1 hz, ← Bool.not_eq_true]
    exact fun hsame => hnone y ⟨hy, hsame⟩

theorem Distinct.concat {x : Value} {xs : List Value} (h : Distinct xs)
    (hx : x.isHashable = true) (hnone : x.isAmong xs = false) : Distinct (xs ++ [x]) := by
  have hinsert := h.insertMember hx
  rwa [Value.insertMember, hnone, if_neg Bool.false_ne_true] at hinsert

theorem insertMember_of_apart {x : Value} {xs : List Value} (h : ∀ y ∈ xs, same x y = false) :
    x.insertMember xs = xs ++ [x] := by
  have hnone : x.isAmong xs = false := by
    rw [isAmong, List.any_eq_false]
    intro y hy
    rw [h y hy]
    exact Bool.false_ne_true
  rw [insertMember, hnone, if_neg Bool.false_ne_true]

theorem insertMember_map {g : Value → Value} {x : Value} {xs : List Value}
    (h : ∀ y ∈ xs, same (g x) (g y) = same x y) :
    (g x).insertMember (xs.map g) = (x.insertMember xs).map g := by
  have hamong : (g x).isAmong (xs.map g) = x.isAmong xs := by
    rw [isAmong, isAmong, List.any_map, Bool.eq_iff_iff, List.any_eq_true, List.any_eq_true]
    exact exists_congr fun y => and_congr_right fun hy => by rw [Function.comp, h y hy]
  rw [insertMember, insertMember, hamong]
  split
  · rfl
  · rw [List.map_append, List.map_singleton]

/-! ### Maps -/

theorem putEntry_of_apart {k x : Value} {es : List (Value × Value)}
    (h : ∀ e ∈ es, same k e.1 = false) : k.putEntry x es = es ++ [(k, x)] := by
  induction es with
  | nil => rfl
  | cons e es ih =>
    rw [putEntry, h e (by simp), if_neg Bool.false_ne_true, ih fun f hf => h f (by simp [hf]),
      List.cons_append]

theorem map_fst_putEntry (k x : Value) (es : List (Value × Value)) :
    (k.putEntry x es).map Prod.fst = k.insertMember (es.map Prod.fst) := by
  induction es with
  | nil => rfl
  | cons e es ih =>
    rw [putEntry, insertMember, isAmong, List.map_cons, List.any_cons]
    by_cases he : same k e.1 = true
    · rw [if_pos he, he, Bool.true_or, if_pos rfl, List.map_cons]
    · rw [if_neg he, List.map_cons, ih, insertMember, isAmong, Bool.eq_false_iff.2 he,
        Bool.false_or]
      split <;> rfl

theorem forall_mem_putEntry {P Q : Value → Prop} {k x : Value} {es : List (Value × Value)}
    (hk : P k) (hx : Q x) (hes : ∀ e ∈ es, P e.1 ∧ Q e.2) :
    ∀ e ∈ k.putEntry x es, P e.1 ∧ Q e.2 := by
  induction es with
  | nil => simp [putEntry, hk, hx]
  | cons e es ih =>
    rw [List.forall_mem_cons] at hes
    rw [putEntry]
    split
    · rw [List.forall_mem_cons]
      exact ⟨⟨hes.1.1, hx⟩, hes.2⟩
    · rw [List.forall_mem_cons]
      exact ⟨hes.1, ih hes.2⟩

theorem putEntry_map {g f : Value → Value} {k x : Value} {es : List (Value × Value)}
    (h : ∀ e ∈ es, same (g k) (g e.1) = same k e.1) :
    (g k).putEntry (f x) (es.map (Prod.map g f)) = (k.putEntry x es).map (Prod.map g f) := by
  induction es with
  | nil => rfl
  | cons e es ih =>
    rw [List.forall_mem_cons] at h
    rw [List.map_cons, putEntry, putEntry, Prod.map_fst, h.1]
    split
    · rfl
    · rw [ih h.2, List.map_cons]
      rfl

/-! ### What they hold -/

/-- A set has the members it is made of, less those that equal an earlier one. -/
theorem exists_setOf {P : Value → Prop} {xs : List Value}
    (hxs : ∀ x ∈ xs, P x ∧ x.isHashable = true) :
    ∃ ys, setOf xs = .set ys ∧ (∀ y ∈ ys, P y) ∧ Distinct ys := by
  suffices h : ∀ ys : List Value, (∀ y ∈ ys, P y) → Distinct ys →
      (∀ y ∈ xs.foldl (fun ys x => insertMember x ys) ys, P y) ∧
        Distinct (xs.foldl (fun ys x => insertMember x ys) ys) from
    ⟨_, rfl, h [] (List.forall_mem_nil _) distinct_nil⟩
  induction xs with
  | nil => exact fun ys hys hdistinct => ⟨hys, hdistinct⟩
  | cons x xs ih =>
    intro ys hys hdistinct
    rw [List.forall_mem_cons] at hxs
    obtain ⟨⟨hx, hhash⟩, htail⟩ := hxs
    exact ih htail _ (forall_mem_insertMember hx hys) (hdistinct.insertMember hhash)

theorem exists_mapOf {P Q : Value → Prop} {es : List (Value × Value)}
    (hes : ∀ e ∈ es, (P e.1 ∧ e.1.isHashable = true) ∧ Q e.2) :
    ∃ fs, mapOf es = .map fs ∧ (∀ f ∈ fs, P f.1 ∧ Q f.2) ∧ Distinct (fs.map Prod.fst) := by
  suffices h : ∀ fs : List (Value × Value), (∀ f ∈ fs, P f.1 ∧ Q f.2) →
      Distinct (fs.map Prod.fst) →
        (∀ f ∈ es.foldl (fun fs e => putEntry e.1 e.2 fs) fs, P f.1 ∧ Q f.2) ∧
          Distinct ((es.foldl (fun fs e => putEntry e.1 e.2 fs) fs).map Prod.fst) from
    ⟨_, rfl, h [] (List.forall_mem_nil _) distinct_nil⟩
  induction es with
  | nil => exact fun fs hfs hdistinct => ⟨hfs, hdistinct⟩
  | cons e es ih =>
    intro fs hfs hdistinct
    rw [List.forall_mem_cons] at hes
    obtain ⟨⟨⟨hkey, hhash⟩, hitem⟩, htail⟩ := hes
    refine ih htail _ (forall_mem_putEntry hkey hitem hfs) ?_
    rw [map_fst_putEntry]
    exact hdistinct.insertMember hhash

/-! ### From distinct members -/

theorem setOf_of_distinct {xs : List Value} (h : Distinct xs) : setOf xs = .set xs := by
  suffices hall : ∀ ys zs : List Value, (ys ++ zs).Pairwise (fun x y => same y x = false) →
      zs.foldl (fun ys x => insertMember x ys) ys = ys ++ zs by
    rw [setOf, hall [] xs h.apart, List.nil_append]
  intro ys zs
  induction zs generalizing ys with
  | nil => intro _; rw [List.foldl_nil, List.append_nil]
  | cons z zs ih =>
    intro hpairs
    rw [List.foldl_cons, insertMember_of_apart fun y hy =>
      (List.pairwise_append.1 hpairs).2.2 y hy z (by simp), ih _ (by simpa using hpairs)]
    simp

theorem mapOf_of_distinct {es : List (Value × Value)} (h : Distinct (es.map Prod.fst)) :
    mapOf es = .map es := by
  suffices hall : ∀ fs gs : List (Value × Value),
      ((fs ++ gs).map Prod.fst).Pairwise (fun x y => same y x = false) →
        gs.foldl (fun fs e => putEntry e.1 e.2 fs) fs = fs ++ gs by
    rw [mapOf, hall [] es h.apart, List.nil_append]
  intro fs gs
  induction gs generalizing fs with
  | nil => intro _; rw [List.foldl_nil, List.append_nil]
  | cons g gs ih =>
    intro hpairs
    have hput := hpairs
    rw [List.map_append, List.pairwise_append] at hput
    rw [List.foldl_cons, putEntry_of_apart fun e he =>
      hput.2.2 e.1 (List.mem_map_of_mem he) g.1 (by simp), ih _ (by simpa using hpairs)]
    simp

end Grounding.Value

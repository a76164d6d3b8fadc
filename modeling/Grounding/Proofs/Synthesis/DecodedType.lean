import Grounding.Proofs.Synthesis.Decoding
import Grounding.Proofs.Synthesis.Soundness
import Mathlib.Algebra.Group.Int.Defs

/-!
# Decoded values have their type

What is decoded from JSON data in a model is a value of the type that the data is read by, though
absent wherever the data is null. Data that does not fit is refused, with two exceptions: an integer
out of range that is read as a floating-point number, and a member of an object that is read as a
map whose keys have no hash.
-/

namespace Grounding

open Synthesis Itemwise Outcome

namespace Value

/-- The values of a type in which any part may be absent, except in the keys of maps. -/
inductive InhabitsPartly : Value → Descriptor → Prop
  | absent (d : Descriptor) : InhabitsPartly .none d
  | primitive {p : Primitive} {x : Value} : p.Admits x → InhabitsPartly x (.primitive p)
  | entity (name type : String) : InhabitsPartly (.entity name) (.external type)
  | list {xs : List Value} {e : Descriptor} :
      (∀ x ∈ xs, InhabitsPartly x e) → InhabitsPartly (.list xs) (.list e)
  | set {xs : List Value} {e : Descriptor} :
      (∀ x ∈ xs, InhabitsPartly x e) → Distinct xs → InhabitsPartly (.set xs) (.set e)
  | map {es : List (Value × Value)} {k v : Descriptor} :
      (∀ e ∈ es, Inhabits e.1 k) → (∀ e ∈ es, InhabitsPartly e.2 v) →
        Distinct (es.map Prod.fst) → InhabitsPartly (.map es) (.map k v)
  | pair {x y : Value} {a b : Descriptor} :
      InhabitsPartly x a → InhabitsPartly y b → InhabitsPartly (.pair x y) (.pair a b)

end Value

/-! ### Values -/

theorem Primitive.admits_of_json {p : Primitive} {data : Json} {x : Value}
    (h : p.ofJson data = .ok x) : p.Admits x := by
  have hdefault := p.admits_default
  unfold Admits at hdefault ⊢
  unfold ofJson at h
  dsimp only at h
  split at h
  · next hp =>
    rw [← Except.ok.inj h, hp]
    exact .text _
  · next s hp =>
    rw [hp] at hdefault ⊢
    rw [← Except.ok.inj h]
    split
    · exact hdefault
    · next hs =>
      have hne : s.toList ≠ [] := by simpa using hs
      obtain ⟨c, rest, hcs⟩ := List.exists_cons_of_ne_nil hne
      rw [hcs]
      exact .character c
  · next hp =>
    rw [← Except.ok.inj h, hp]
    exact .boolean _
  · next hp =>
    rw [← Except.ok.inj h, hp]
    exact .integral _
  · next hp =>
    split at h
    · rw [← Except.ok.inj h, hp]
      exact .integral _
    · cases h
  · next hp =>
    split at h
    · rw [← Except.ok.inj h, hp]
      exact .floating _
    · cases h
  · next y hp =>
    rw [← Except.ok.inj h, hp]
    cases y with
    | nan => exact .nan 0
    | infinite negative => exact .floating _
    | finite negative m e => exact .floating _
  · cases h

namespace Synthesis

theorem inhabitsPartly_of_null {d : Descriptor} {x : Value}
    (h : decode Model.externals d .null = (.ok x : Except Fault Value)) : x.InhabitsPartly d := by
  rw [decode_null] at h
  exact Except.ok.inj h ▸ .absent d

theorem inhabitsPartly_of_decode {d : Descriptor} {data : Json} {x : Value}
    (h : decode Model.externals d data = (.ok x : Except Fault Value)) : x.InhabitsPartly d := by
  induction d generalizing data x with
  | primitive p =>
    rcases eq_or_ne data .null with rfl | hdata
    · exact inhabitsPartly_of_null h
    · rw [decode_primitive hdata] at h
      exact .primitive (Primitive.admits_of_json h)
  | external type =>
    rcases eq_or_ne data .null with rfl | hdata
    · exact inhabitsPartly_of_null h
    · rw [decode_external hdata] at h
      unfold decodeExternal at h
      split at h
      · cases h
      · cases h
      · rw [← Except.ok.inj h]
        exact .entity _ type
  | list e ih =>
    rcases eq_or_ne data .null with rfl | hdata
    · exact inhabitsPartly_of_null h
    · obtain ⟨items, xs, -, hxs, rfl⟩ := (decode_list_eq_ok_iff hdata).1 h
      refine .list fun y hy => ?_
      obtain ⟨item, -, hmade⟩ := exists_mem_of_forall₂ hxs y hy
      exact ih hmade
  | set e ih =>
    rcases eq_or_ne data .null with rfl | hdata
    · exact inhabitsPartly_of_null h
    · obtain ⟨items, xs, -, hxs, rfl⟩ := (decode_set_eq_ok_iff hdata).1 h
      have hmembers : ∀ y ∈ xs, y.InhabitsPartly e ∧ y.isHashable = true := by
        intro y hy
        obtain ⟨item, -, hmade, hhash⟩ := exists_mem_of_forall₂ hxs y hy
        exact ⟨ih hmade, hhash⟩
      obtain ⟨ys, hys, hinhabits, hdistinct⟩ := Value.exists_setOf hmembers
      rw [hys]
      exact .set hinhabits hdistinct
  | map k v _ ih =>
    rcases eq_or_ne data .null with rfl | hdata
    · exact inhabitsPartly_of_null h
    · obtain ⟨members, es, -, hes, rfl⟩ := (decode_map_eq_ok_iff hdata).1 h
      have hentries : ∀ e ∈ es,
          (e.1.Inhabits k ∧ e.1.isHashable = true) ∧ e.2.InhabitsPartly v := by
        intro e he
        obtain ⟨member, -, hkey, hitem, hhash⟩ := exists_mem_of_forall₂ hes e he
        exact ⟨⟨inhabits_of_create hkey, hhash⟩, ih hitem⟩
      obtain ⟨fs, hfs, hinhabits, hdistinct⟩ := Value.exists_mapOf
        (P := fun y => y.Inhabits k) (Q := fun y => y.InhabitsPartly v) hentries
      rw [hfs]
      exact .map (fun f hf => (hinhabits f hf).1) (fun f hf => (hinhabits f hf).2) hdistinct
  | pair a b iha ihb =>
    rcases eq_or_ne data .null with rfl | hdata
    · exact inhabitsPartly_of_null h
    · obtain ⟨i, j, -, y, z, hy, hz, rfl⟩ := (decode_pair_eq_ok_iff hdata).1 h
      exact .pair (iha hy) (ihb hz)

/-! ### Faults -/

/-- The faults that arise somewhere in data although it is not refused there: an integer is too
large for a floating-point number, or the keys of a map have no hash. A set refuses an item whose
keys have none. -/
inductive Escapes : Descriptor → Json → Fault → Prop
  | tooLarge {p : Primitive} {n : Int} : p.scalar = .floating → Binary64.ofInt? n = none →
      Escapes (.primitive p) (.int n) .tooLarge
  | key {k v : Descriptor} {members : List (String × Json)} {type : String} :
      k.isHashable = false → members ≠ [] →
        Escapes (.map k v) (.object members) (.mismatch (.unhashable type))
  | listItem {e : Descriptor} {items : List Json} {item : Json} {f : Fault} :
      item ∈ items → Escapes e item f → Escapes (.list e) (.array items) f
  | setItem {e : Descriptor} {items : List Json} {item : Json} {f : Fault} :
      item ∈ items → Escapes e item f → (∀ m, f ≠ .mismatch m) → Escapes (.set e) (.array items) f
  | mapItem {k v : Descriptor} {members : List (String × Json)} {member : String × Json}
      {f : Fault} :
      member ∈ members → Escapes v member.2 f → Escapes (.map k v) (.object members) f
  | first {a b : Descriptor} {data i j : Json} {f : Fault} :
      componentsOf (.pair a b) data = .ok (i, j) → Escapes a i f → Escapes (.pair a b) data f
  | second {a b : Descriptor} {data i j : Json} {f : Fault} :
      componentsOf (.pair a b) data = .ok (i, j) → Escapes b j f → Escapes (.pair a b) data f

def IsDecodingFault (d : Descriptor) (data : Json) (f : Fault) : Prop :=
  f.IsRefusal ∨ Escapes d data f

theorem failsOnly_parts {α : Type} {d : Descriptor} {data : Json} (r : Except LiteralError α) :
    FailsOnly (IsDecodingFault d data) (reading r : Except Fault α) :=
  (failsOnly_reading r).imp fun _ hf => .inl hf

theorem failsOnly_decode_null (d : Descriptor) :
    FailsOnly (IsDecodingFault d .null) (decode Model.externals d .null) := by
  rw [decode_null]
  exact failsOnly_pure _

theorem failsOnly_requireHashable (x : Value) :
    FailsOnly (fun f => x.isHashable = false ∧ ∃ type, f = .mismatch (.unhashable type))
      x.requireHashable := by
  intro f hf
  unfold Value.requireHashable at hf
  unfold Value.isHashable
  cases hx : x.unhashable? with
  | none =>
    rw [hx] at hf
    cases hf
  | some type =>
    rw [hx] at hf
    exact ⟨rfl, type, (Except.error.inj hf).symm⟩

theorem failsOnly_addItem {P : Fault → Prop} {decodeItem : Json → Except Fault Value} {item : Json}
    (h : FailsOnly P (decodeItem item)) (xs : List Value) :
    FailsOnly (fun f => f.IsRefusal ∨ P f ∧ ∀ m, f ≠ .mismatch m)
      (addItem decodeItem xs item) := by
  unfold addItem
  refine FailsOnly.tryCatch (P := fun f => P f ∨ ∃ m, f = .mismatch m) ?_ ?_
  · refine (h.imp fun f hf => .inl hf).bind fun x _ => ?_
    rw [checked_eq]
    refine ((failsOnly_requireHashable x).imp fun f hf => ?_).bind fun _ _ => failsOnly_pure _
    obtain ⟨-, type, rfl⟩ := hf
    exact .inr ⟨_, rfl⟩
  · intro f hf g hg
    split at hg
    · exact .inl ⟨_, (Except.error.inj hg).symm⟩
    · next hne =>
      rw [← Except.error.inj hg]
      rcases hf with hf | ⟨m, rfl⟩
      · exact .inr ⟨hf, fun m hm => hne m hm⟩
      · exact absurd rfl (hne m)

theorem failsOnly_ofJson (p : Primitive) (data : Json) :
    FailsOnly (IsDecodingFault (.primitive p) data) (p.ofJson data) := by
  intro f hf
  unfold Primitive.ofJson at hf
  dsimp only at hf
  split at hf
  · cases hf
  · cases hf
  · cases hf
  · cases hf
  · split at hf
    · cases hf
    · exact .inl ⟨_, (Except.error.inj hf).symm⟩
  · next hp =>
    split at hf
    · cases hf
    · next hnone =>
      rw [← Except.error.inj hf]
      exact .inr (.tooLarge hp hnone)
  · cases hf
  · exact .inl ⟨_, (Except.error.inj hf).symm⟩

theorem failsOnly_decode (d : Descriptor) (data : Json) :
    FailsOnly (IsDecodingFault d data) (decode Model.externals d data) := by
  induction d generalizing data with
  | primitive p =>
    rcases eq_or_ne data .null with rfl | hdata
    · exact failsOnly_decode_null _
    · rw [decode_primitive hdata]
      exact failsOnly_ofJson p data
  | external type =>
    rcases eq_or_ne data .null with rfl | hdata
    · exact failsOnly_decode_null _
    · rw [decode_external hdata]
      intro f hf
      unfold decodeExternal at hf
      split at hf
      · exact .inl ⟨_, (Except.error.inj hf).symm⟩
      · exact .inl ⟨_, (Except.error.inj hf).symm⟩
      · cases hf
  | list e ih =>
    rcases eq_or_ne data .null with rfl | hdata
    · exact failsOnly_decode_null _
    · rw [decode_list hdata]
      refine (failsOnly_parts _).bind fun items hitems => ?_
      rw [reading_eq_ok_iff, itemsOf_eq_ok_iff] at hitems
      subst hitems
      refine FailsOnly.bind (.mapM fun item hitem => ?_) fun xs _ => failsOnly_pure _
      exact (ih item).imp fun f hf => hf.imp_right (.listItem hitem)
  | set e ih =>
    rcases eq_or_ne data .null with rfl | hdata
    · exact failsOnly_decode_null _
    · rw [decode_set hdata]
      refine (failsOnly_parts _).bind fun items hitems => ?_
      rw [reading_eq_ok_iff, itemsOf_eq_ok_iff] at hitems
      subst hitems
      refine FailsOnly.bind (.foldlM (fun item hitem xs => ?_) _) fun xs _ => failsOnly_pure _
      refine (failsOnly_addItem (ih item) xs).imp fun f hf => ?_
      rcases hf with hrefusal | ⟨hrefusal | hescapes, hne⟩
      · exact .inl hrefusal
      · exact .inl hrefusal
      · exact .inr (.setItem hitem hescapes hne)
  | map k v _ ih =>
    rcases eq_or_ne data .null with rfl | hdata
    · exact failsOnly_decode_null _
    · rw [decode_map hdata]
      refine (failsOnly_parts _).bind fun members hmembers => ?_
      rw [reading_eq_ok_iff, membersOf_eq_ok_iff] at hmembers
      subst hmembers
      refine FailsOnly.bind (.foldlM (fun member hmember es => ?_) _) fun es _ => failsOnly_pure _
      refine ((failsOnly_create k _).imp fun f hf => .inl hf).bind fun key hkey => ?_
      refine ((ih member.2).imp fun f hf => hf.imp_right (.mapItem hmember)).bind fun x _ => ?_
      rw [checked_eq]
      refine ((failsOnly_requireHashable key).imp fun f hf => ?_).bind fun _ _ => failsOnly_pure _
      obtain ⟨hhash, type, rfl⟩ := hf
      -- whether a key has a hash depends on its type only
      rw [Value.isHashable_of_inhabits (inhabits_of_create hkey)] at hhash
      exact .inr (.key hhash (List.ne_nil_of_mem hmember))
  | pair a b iha ihb =>
    rcases eq_or_ne data .null with rfl | hdata
    · exact failsOnly_decode_null _
    · rw [decode_pair hdata]
      refine (failsOnly_parts _).bind fun ⟨i, j⟩ hparts => ?_
      rw [reading_eq_ok_iff] at hparts
      refine ((iha i).imp fun f hf => hf.imp_right (.first hparts)).bind fun x _ => ?_
      exact ((ihb j).imp fun f hf => hf.imp_right (.second hparts)).bind fun y _ => failsOnly_pure _

theorem Escapes.fault_eq {d : Descriptor} {data : Json} {f : Fault} (h : Escapes d data f) :
    f = .tooLarge ∨ ∃ type, f = .mismatch (.unhashable type) := by
  induction h with
  | tooLarge _ _ => exact .inl rfl
  | key _ _ => exact .inr ⟨_, rfl⟩
  | listItem _ _ ih => exact ih
  | setItem _ _ _ ih => exact ih
  | mapItem _ _ ih => exact ih
  | first _ _ ih => exact ih
  | second _ _ ih => exact ih

theorem Escapes.not_ok {d : Descriptor} {data : Json} {f : Fault} (h : Escapes d data f)
    (x : Value) : decode Model.externals d data ≠ (.ok x : Except Fault Value) := by
  induction h generalizing x with
  | @tooLarge p n hp hn =>
    intro hx
    rw [decode_primitive fun hnull => Json.noConfusion hnull] at hx
    simp only [Primitive.ofJson, hp, hn] at hx
    cases hx
  | @key k v members type hhash hne =>
    intro hx
    obtain ⟨_, es, heq, hes, -⟩ :=
      (decode_map_eq_ok_iff fun hnull => Json.noConfusion hnull).1 hx
    obtain rfl := Json.object.inj heq
    obtain ⟨member, hmember⟩ := List.exists_mem_of_ne_nil _ hne
    obtain ⟨e, -, hkey, -, he⟩ := exists_mem_of_forall₂ hes.flip member hmember
    rw [Value.isHashable_of_inhabits (inhabits_of_create hkey), hhash] at he
    cases he
  | listItem hitem _ ih =>
    intro hx
    obtain ⟨_, xs, heq, hxs, -⟩ :=
      (decode_list_eq_ok_iff fun hnull => Json.noConfusion hnull).1 hx
    obtain rfl := Json.array.inj heq
    obtain ⟨y, -, hy⟩ := exists_mem_of_forall₂ hxs.flip _ hitem
    exact ih y hy
  | setItem hitem _ _ ih =>
    intro hx
    obtain ⟨_, xs, heq, hxs, -⟩ :=
      (decode_set_eq_ok_iff fun hnull => Json.noConfusion hnull).1 hx
    obtain rfl := Json.array.inj heq
    obtain ⟨y, -, hy, -⟩ := exists_mem_of_forall₂ hxs.flip _ hitem
    exact ih y hy
  | mapItem hmember _ ih =>
    intro hx
    obtain ⟨_, es, heq, hes, -⟩ :=
      (decode_map_eq_ok_iff fun hnull => Json.noConfusion hnull).1 hx
    obtain rfl := Json.object.inj heq
    obtain ⟨e, -, -, he, -⟩ := exists_mem_of_forall₂ hes.flip _ hmember
    exact ih e.2 he
  | first hparts _ ih =>
    intro hx
    obtain ⟨i, j, hparts', y, z, hy, -, -⟩ := (decode_pair_eq_ok_iff (ne_null_of_parts hparts)).1 hx
    obtain ⟨rfl, rfl⟩ := Prod.mk.inj (Except.ok.inj (hparts.symm.trans hparts'))
    exact ih y hy
  | second hparts _ ih =>
    intro hx
    obtain ⟨i, j, hparts', y, z, -, hz, -⟩ := (decode_pair_eq_ok_iff (ne_null_of_parts hparts)).1 hx
    obtain ⟨rfl, rfl⟩ := Prod.mk.inj (Except.ok.inj (hparts.symm.trans hparts'))
    exact ih z hz

/-- From any data a model makes a value of the type, absent wherever the data is null, or else it
refuses the data, unless a fault escapes from a part of it. -/
theorem decode_inhabits_or_refuses (d : Descriptor) (data : Json) :
    (∃ x, Model.decode d data = .ok x ∧ x.InhabitsPartly d ∧ ∀ f, ¬ Escapes d data f) ∨
      (∃ e, Model.decode d data = .error (.literal e)) ∨
        ∃ f, Model.decode d data = .error f ∧ Escapes d data f ∧
          (f = .tooLarge ∨ ∃ type, f = .mismatch (.unhashable type)) := by
  cases hdecode : Model.decode d data with
  | ok x =>
    exact .inl ⟨x, rfl, inhabitsPartly_of_decode hdecode, fun f hf => hf.not_ok x hdecode⟩
  | error f =>
    rcases failsOnly_decode d data f hdecode with ⟨e, rfl⟩ | hescapes
    · exact .inr (.inl ⟨e, rfl⟩)
    · exact .inr (.inr ⟨f, rfl, hescapes, hescapes.fault_eq⟩)

/-- A list is no key, and ten to the power of four hundred is no floating-point number. -/
theorem decode_lets_faults_escape :
    Model.decode (.map (.list (.primitive .integer)) (.primitive .integer))
        (.object [("[1]", .int 2)]) = .error (.mismatch (.unhashable "list")) ∧
      Model.decode (.primitive .double) (.int (10 ^ 400)) = .error .tooLarge := by
  have hrange : Binary64.ofInt? (10 ^ 400) = none := by decide +kernel
  have hpresent : Json.int (10 ^ 400) ≠ .null := fun hnull => Json.noConfusion hnull
  constructor
  · rfl
  · rw [Model.decode, decode_primitive hpresent]
    simp only [Primitive.ofJson, Primitive.scalar, hrange]

end Synthesis

end Grounding

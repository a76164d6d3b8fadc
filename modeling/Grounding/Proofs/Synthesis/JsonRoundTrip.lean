import Grounding.Proofs.Itemwise
import Grounding.Proofs.Synthesis.Decoding
import Grounding.Proofs.Synthesis.Soundness
import Grounding.Value.Literal
import Mathlib.Data.List.Permutation

/-!
# Values survive being encoded as JSON

A value without floats is encoded as JSON data: the members of a set and of a map in any order, the
keys of a map by their literals, and each pair in one of three forms. If the keys can be read from
their literals then the value is decoded again.
-/

namespace Grounding

open Synthesis Itemwise

namespace Json

/-- The forms of a pair. The members of an object may come in either order. -/
inductive IsPairOf (i j : Json) : Json → Prop
  | array : IsPairOf i j (.array [i, j])
  | keyValue {members : List (String × Json)} :
      members.Perm [("key", i), ("value", j)] → IsPairOf i j (.object members)
  | firstSecond {members : List (String × Json)} :
      members.Perm [("first", i), ("second", j)] → IsPairOf i j (.object members)

theorem IsPairOf.componentsOf {i j data : Json} (h : IsPairOf i j data) (d : Descriptor) :
    componentsOf d data = .ok (i, j) := by
  cases h with
  | array => rfl
  | keyValue hmembers => rcases List.perm_pair.1 hmembers with rfl | rfl <;> rfl
  | firstSecond hmembers => rcases List.perm_pair.1 hmembers with rfl | rfl <;> rfl

end Json

namespace Value

/-- The JSON data that encodes a value. -/
inductive EncodedAs : Value → Json → Prop
  | bool (b : Bool) : EncodedAs (.bool b) (.bool b)
  | int (n : Int) : EncodedAs (.int n) (.int n)
  | text (s : String) : EncodedAs (.text s) (.string s)
  | entity (name : String) : EncodedAs (.entity name) (.string name)
  | list {xs : List Value} {items : List Json} :
      List.Forall₂ EncodedAs xs items → EncodedAs (.list xs) (.array items)
  | set {xs ys : List Value} {items : List Json} :
      ys.Perm xs → List.Forall₂ EncodedAs ys items → EncodedAs (.set xs) (.array items)
  | map {es fs : List (Value × Value)} {members : List (String × Json)} :
      fs.Perm es → members.map Prod.fst = fs.map (fun f => f.1.literal) →
        List.Forall₂ EncodedAs (fs.map Prod.snd) (members.map Prod.snd) →
          EncodedAs (.map es) (.object members)
  | pair {x y : Value} {i j data : Json} :
      EncodedAs x i → EncodedAs y j → Json.IsPairOf i j data → EncodedAs (.pair x y) data

/-- Whether each key of the maps in a value equals what is made of its literal. -/
def HasReadableKeys : Descriptor → Value → Prop
  | .list e, list xs | .set e, set xs => ∀ x ∈ xs, HasReadableKeys e x
  | .map k v, map es =>
    ∀ e ∈ es, (∃ y, Model.create k e.1.literal = .ok y ∧ same y e.1 = true) ∧
      HasReadableKeys v e.2
  | .pair a b, pair x y => HasReadableKeys a x ∧ HasReadableKeys b y
  | _, _ => True

/-- What is decoded from an encoding of a value. -/
structure Redecoded (d : Descriptor) (x : Value) (data : Json) (y : Value) : Prop where
  decoded : decode Model.externals d data = (.ok y : Except Fault Value)
  same : same y x = true
  /-- What may stand in a set has no set in it. -/
  eq : x.isHashable = true → y = x

/-! ### Primitive types -/

theorem ofJson_of_encodedAs {p : Primitive} {x : Value} {data : Json} (hp : p.scalar ≠ .floating)
    (hx : p.Admits x) (hdata : x.EncodedAs data) : p.ofJson data = .ok x := by
  unfold Primitive.Admits at hx
  unfold Primitive.ofJson
  generalize p.scalar = k at hp hx
  cases hx with
  | text s =>
    cases hdata
    rfl
  | character c =>
    cases hdata
    have hne : (String.singleton c).isEmpty = false := by simp
    simp only [hne, String.toList_singleton, List.take_one]
    rfl
  | boolean b =>
    cases hdata
    rfl
  | integral n =>
    cases hdata
    rfl
  | floating y => exact absurd rfl hp
  | nan mark => exact absurd rfl hp

theorem EncodedAs.ne_null {x : Value} {data : Json} (h : x.EncodedAs data) : data ≠ .null := by
  rintro rfl
  cases h with
  | pair _ _ hform => cases hform

/-! ### Containers -/

theorem redecoded_list {e : Descriptor} {xs : List Value} {items : List Json}
    (h : List.Forall₂ (fun x item => ∃ y, Redecoded e x item y) xs items) :
    ∃ y, Redecoded (.list e) (list xs) (.array items) y := by
  have hboth : List.Forall₂ (fun x item => ∃ y, same y x = true ∧
      decode Model.externals e item = (.ok y : Except Fault Value)) xs items :=
    h.imp fun x item ⟨y, hy⟩ => ⟨y, hy.same, hy.decoded⟩
  obtain ⟨ys, hsame, hdecoded⟩ := exists_forall₂_between hboth
  refine ⟨list ys, ?_, ?_, fun hhash => nomatch hhash⟩
  · rw [decode_list_eq_ok_iff fun hnull => Json.noConfusion hnull]
    exact ⟨items, ys, rfl, hdecoded, rfl⟩
  · simp only [same, sameItems_iff]
    exact hsame.flip

theorem redecoded_set {e : Descriptor} {xs ys : List Value} {items : List Json}
    (hfloat : e.isFloatFree = true) (hxs : ∀ x ∈ xs, x.Inhabits e) (hdistinct : Distinct xs)
    (hperm : ys.Perm xs)
    (h : List.Forall₂ (fun x item => ∃ y, Redecoded e x item y) ys items) :
    Redecoded (.set e) (set xs) (.array items) (set ys) where
  decoded := by
    have hmembers : List.Forall₂ (fun y item => DecodesMember (decode Model.externals e) item y)
        ys items := by
      refine forall₂_imp_of_mem h fun y hy item ⟨z, hz⟩ => ?_
      have hhash := hdistinct.hashable y (hperm.mem_iff.1 hy)
      -- a member has no set in it, so it is decoded as it was
      obtain rfl := hz.eq hhash
      exact ⟨hz.decoded, hhash⟩
    rw [decode_set_eq_ok_iff fun hnull => Json.noConfusion hnull]
    exact ⟨items, ys, rfl, hmembers.flip, setOf_of_distinct (hdistinct.perm hperm hxs)⟩
  same := same_set_of_perm hperm hxs hfloat
  eq := fun hhash => nomatch hhash

theorem create_key {k : Descriptor} {x : Value} (hfloat : k.isFloatFree = true)
    (hx : x.Inhabits k) (hhash : x.isHashable = true)
    (hreadable : ∃ y, Model.create k x.literal = .ok y ∧ same y x = true) :
    create Model.externals k x.literal.toList = (.ok x : Except Fault Value) := by
  obtain ⟨y, hmade, hsame⟩ := hreadable
  have hy : y.Inhabits k := inhabits_of_create hmade
  have hyhash : y.isHashable = true := by
    rw [isHashable_of_inhabits hy, ← isHashable_of_inhabits hx, hhash]
  rw [eq_of_same hy hx hfloat hyhash hsame] at hmade
  exact hmade

/-- What is decoded from a member of an object that encodes an entry of a map. -/
structure RedecodedEntry (k v : Descriptor) (e : Value × Value) (member : String × Json)
    (f : Value × Value) : Prop where
  decodes : DecodesEntry (create Model.externals k) (decode Model.externals v) member f
  same_key : f.1 = e.1
  same_item : same f.2 e.2 = true

theorem redecoded_map {k v : Descriptor} {es fs : List (Value × Value)}
    {members : List (String × Json)} (hfloat : k.isFloatFree = true)
    (hk : ∀ e ∈ es, e.1.Inhabits k) (hdistinct : Distinct (es.map Prod.fst)) (hperm : fs.Perm es)
    (h : List.Forall₂ (fun f member => ∃ g, RedecodedEntry k v f member g) fs members) :
    ∃ y, Redecoded (.map k v) (map es) (.object members) y := by
  have hboth : List.Forall₂ (fun f member => ∃ g : Value × Value,
      (g.1 = f.1 ∧ same g.2 f.2 = true) ∧
        DecodesEntry (create Model.externals k) (decode Model.externals v) member g) fs members :=
    h.imp fun f member ⟨g, hg⟩ => ⟨g, ⟨hg.same_key, hg.same_item⟩, hg.decodes⟩
  obtain ⟨gs, hsame, hdecoded⟩ := exists_forall₂_between hboth
  have hkeys : gs.map Prod.fst = fs.map Prod.fst :=
    map_eq_map_iff_forall₂.2 (hsame.flip.imp fun g f hfg => hfg.1)
  have hdistinct' : Distinct (gs.map Prod.fst) := by
    rw [hkeys]
    exact hdistinct.perm (hperm.map Prod.fst) (List.forall_mem_map.2 hk)
  refine ⟨map gs, ?_, ?_, fun hhash => nomatch hhash⟩
  · rw [decode_map_eq_ok_iff fun hnull => Json.noConfusion hnull]
    exact ⟨members, gs, rfl, hdecoded, mapOf_of_distinct hdistinct'⟩
  · have hlength : gs.length = es.length := hsame.length_eq.symm.trans hperm.length_eq
    simp only [same, hlength, BEq.rfl, Bool.true_and, entriesWithin_iff]
    intro g hg
    obtain ⟨f, hf, hkey, hitem⟩ := exists_mem_of_forall₂ hsame g hg
    have hmem := hperm.mem_iff.1 hf
    refine ⟨f, hmem, ?_, hitem⟩
    rw [hkey]
    exact same_self (hk f hmem) hfloat

theorem redecoded_pair {a b : Descriptor} {x y x' y' : Value} {i j data : Json}
    (hform : Json.IsPairOf i j data) (hx : Redecoded a x i x') (hy : Redecoded b y j y') :
    Redecoded (.pair a b) (pair x y) data (pair x' y') where
  decoded := by
    have hparts := hform.componentsOf (.pair a b)
    rw [decode_pair_eq_ok_iff (ne_null_of_parts hparts)]
    exact ⟨i, j, hparts, x', y', hx.decoded, hy.decoded, rfl⟩
  same := by
    simp only [same, components?, hx.same, hy.same, Bool.and_self]
  eq := by
    intro hhash
    rw [isHashable_pair, Bool.and_eq_true] at hhash
    rw [hx.eq hhash.1, hy.eq hhash.2]

/-! ### All types -/

theorem exists_redecoded {d : Descriptor} {x : Value} {data : Json} (h : x.Inhabits d)
    (hfloat : d.isFloatFree = true) (hkeys : HasReadableKeys d x) (hdata : x.EncodedAs data) :
    ∃ y, Redecoded d x data y := by
  induction h generalizing data with
  | @primitive p x hp =>
    refine ⟨x, ?_, same_self (.primitive hp) hfloat, fun _ => rfl⟩
    rw [decode_primitive hdata.ne_null]
    exact ofJson_of_encodedAs (bne_iff_ne.1 hfloat) hp hdata
  | entity name type =>
    cases hdata
    exact ⟨.entity name, rfl, same_self (.entity name type) hfloat, fun _ => rfl⟩
  | @list xs e hxs ih =>
    cases hdata with
    | list hitems =>
      refine redecoded_list (forall₂_imp_of_mem hitems fun x hx item hitem => ?_)
      exact ih x hx hfloat (hkeys x hx) hitem
  | @set xs e hxs hdistinct ih =>
    cases hdata with
    | @set _ ys items hperm hitems =>
      refine ⟨set ys, redecoded_set hfloat hxs hdistinct hperm ?_⟩
      refine forall₂_imp_of_mem hitems fun y hy item hitem => ?_
      have hmem := hperm.mem_iff.1 hy
      exact ih y hmem hfloat (hkeys y hmem) hitem
  | @map es k v hk hv hdistinct ihk ihv =>
    simp only [Descriptor.isFloatFree, Bool.and_eq_true] at hfloat
    cases hdata with
    | @map _ fs members hperm hnames hitems =>
      refine redecoded_map hfloat.1 hk hdistinct hperm ?_
      rw [map_eq_map_iff_forall₂] at hnames
      rw [List.forall₂_map_left_iff, List.forall₂_map_right_iff] at hitems
      have hmembers : List.Forall₂ (fun f member => member.1 = f.1.literal ∧
          f.2.EncodedAs member.2) fs members :=
        List.Forall₂.mp (fun f member hname hitem => ⟨hname, hitem⟩) hnames.flip hitems
      refine forall₂_imp_of_mem hmembers fun f hf member hmember => ?_
      have hmem := hperm.mem_iff.1 hf
      obtain ⟨hreadable, hitemkeys⟩ := hkeys f hmem
      obtain ⟨y, hy⟩ := ihv f hmem hfloat.2 hitemkeys hmember.2
      have hhash := hdistinct.hashable f.1 (List.mem_map_of_mem hmem)
      have hkey := create_key hfloat.1 (hk f hmem) hhash hreadable
      rw [← hmember.1] at hkey
      exact ⟨(f.1, y), ⟨hkey, hy.decoded, hhash⟩, rfl, hy.same⟩
  | @pair x y a b ha hb iha ihb =>
    simp only [Descriptor.isFloatFree, Bool.and_eq_true] at hfloat
    cases hdata with
    | pair hi hj hform =>
      obtain ⟨x', hx'⟩ := iha hfloat.1 hkeys.1 hi
      obtain ⟨y', hy'⟩ := ihb hfloat.2 hkeys.2 hj
      exact ⟨pair x' y', redecoded_pair hform hx' hy'⟩

/-- A value without floats is decoded from each of its encodings, provided the keys of its maps can
be read from their literals. -/
theorem decode_encoding {d : Descriptor} {x : Value} {data : Json} (h : x.Inhabits d)
    (hfloat : d.isFloatFree = true) (hkeys : HasReadableKeys d x) (hdata : x.EncodedAs data) :
    ∃ y, Model.decode d data = .ok y ∧ same y x = true := by
  obtain ⟨y, hy⟩ := exists_redecoded h hfloat hkeys hdata
  exact ⟨y, hy.decoded, hy.same⟩

/-- A map from pairs to a list of pairs, which are encoded in all three forms. -/
theorem decode_encoding_map_of_pairs :
    ∃ y, Model.decode
        (.map (.pair (.primitive .string) (.primitive .integer))
          (.list (.pair (.external "Vat") (.set (.primitive .integer)))))
        (.object [("a=1", .array [
          .object [("value", .array [.int (-1), .int 3]), ("key", .string "v")],
          .array [.string "w", .array []],
          .object [("first", .string ""), ("second", .array [])]])]) = .ok y ∧
      same y (map [(pair (text "a") (int 1), list [
        pair (entity "v") (set [int 3, int (-1)]),
        pair (entity "w") (set []),
        pair (entity "") (set [])])]) = true := by
  have hset : (set [int 3, int (-1)]).Inhabits (.set (.primitive .integer)) := by
    refine .set ?_ ⟨by simp [isHashable, unhashable?], ?_⟩
    · simp only [List.forall_mem_cons]
      exact ⟨.primitive (.integral 3), .primitive (.integral (-1)), by simp⟩
    · simp [same, ← Bool.not_eq_true, samePlace_int]
  have hempty : (set []).Inhabits (.set (.primitive .integer)) :=
    .set (List.forall_mem_nil _) distinct_nil
  have hlist : (list [pair (entity "v") (set [int 3, int (-1)]), pair (entity "w") (set []),
      pair (entity "") (set [])]).Inhabits
        (.list (.pair (.external "Vat") (.set (.primitive .integer)))) := by
    refine .list ?_
    simp only [List.forall_mem_cons]
    exact ⟨.pair (.entity "v" "Vat") hset, .pair (.entity "w" "Vat") hempty,
      .pair (.entity "" "Vat") hempty, List.forall_mem_nil _⟩
  have hkey : (pair (text "a") (int 1)).Inhabits
      (.pair (.primitive .string) (.primitive .integer)) :=
    .pair (.primitive (.text "a")) (.primitive (.integral 1))
  have hkeyValue : (pair (entity "v") (set [int 3, int (-1)])).EncodedAs
      (.object [("value", .array [.int (-1), .int 3]), ("key", .string "v")]) :=
    .pair (.entity "v") (.set (.swap _ _ []) (.cons (.int (-1)) (.cons (.int 3) .nil)))
      (.keyValue (.swap _ _ []))
  have harray : (pair (entity "w") (set [])).EncodedAs (.array [.string "w", .array []]) :=
    .pair (.entity "w") (.set (.refl []) .nil) .array
  have hfirstSecond : (pair (entity "") (set [])).EncodedAs
      (.object [("first", .string ""), ("second", .array [])]) :=
    .pair (.entity "") (.set (.refl []) .nil) (.firstSecond (.refl _))
  refine decode_encoding (.map ?_ ?_ ?_) rfl ?_ (.map (.refl _) ?_ ?_)
  · rw [List.forall_mem_singleton]
    exact hkey
  · rw [List.forall_mem_singleton]
    exact hlist
  · exact ⟨by simp [isHashable, unhashable?], by simp⟩
  · simp only [HasReadableKeys, List.forall_mem_singleton, List.forall_mem_cons]
    refine ⟨⟨pair (text "a") (int 1), ?_, ?_⟩, ?_⟩
    · rfl
    · exact same_self hkey rfl
    · simp
  · decide +kernel
  · exact .cons (.list (.cons hkeyValue (.cons harray (.cons hfirstSecond .nil)))) .nil

end Value

end Grounding

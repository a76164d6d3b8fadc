import Grounding.Proofs.Itemwise
import Grounding.Proofs.Synthesis.Creation
import Grounding.Proofs.Synthesis.LiteralShape
import Grounding.Synthesis.Model

/-!
# Values survive being written as literals

A legible value without floats and without pairs directly in pairs or maps is made again from its
literal. The members of its sets may come in another order, and everything else is as it was.
-/

namespace Grounding.Value

open Text Synthesis Itemwise

/-! ### Primitive types -/

theorem readBool?_literal (b : Bool) : Primitive.readBool? (bool b).literalChars = some b := by
  cases b <;> decide

theorem ofLiteral_literal {p : Primitive} {x : Value} (hp : p.scalar ≠ .floating) (hx : p.Admits x)
    (hlegible : x.IsLegible) : p.ofLiteral x.literalChars = .ok x := by
  have hsome : p.ofLiteral? x.literalChars = some x := by
    unfold Primitive.Admits at hx
    unfold Primitive.ofLiteral?
    generalize p.scalar = k at hp hx
    cases hx with
    | text s => simp only [literalChars, String.ofList_toList]
    | character c =>
      simp only [literalChars, String.toList_singleton, List.take_one]
      rfl
    | boolean b => simp only [readBool?_literal, Option.map_some]
    | integral n =>
      simp only [literalChars, String.ofList_toList, Numeral.readInt?_toString hlegible.writable,
        Option.map_some]
    | floating y => exact absurd rfl hp
    | nan mark => exact absurd rfl hp
  have hne : x.literalChars.isEmpty = false :=
    List.isEmpty_eq_false_iff.2 (isPlain_literal_of_admits hp hx hlegible).ne_nil
  simp only [Primitive.ofLiteral, hne, hsome, Bool.false_eq_true, if_false]

/-! ### Containers -/

/-- What is made of the literal of a value. -/
structure Remade (d : Descriptor) (x y : Value) : Prop where
  made : create Model.externals d x.literalChars = (.ok y : Except Fault Value)
  same : same y x = true
  /-- What may stand in a set has no set in it. -/
  eq : x.isHashable = true → y = x

theorem remade_list {e : Descriptor} {xs ys : List Value}
    (hparts : ∀ x ∈ xs, IsMember x.literalChars) (h : List.Forall₂ (Remade e) xs ys) :
    Remade (.list e) (list xs) (list ys) where
  made := by
    rw [create_list_eq_ok_iff]
    refine ⟨(xs.map literalChars).map some, ys, ?_, ?_, rfl⟩
    · rw [literalChars_list]
      exact members_enclosed .square (List.forall_mem_map.2 hparts)
    · simp only [List.forall₂_map_left_iff]
      exact h.imp fun x y hxy => hxy.made
  same := by
    simp only [Value.same, sameItems_iff]
    exact h.flip.imp fun y x hxy => hxy.same
  eq := fun hhash => nomatch hhash

theorem remade_set {e : Descriptor} {xs : List Value} (hfloat : e.isFloatFree = true)
    (hxs : ∀ x ∈ xs, x.Inhabits e) (hdistinct : Distinct xs)
    (hparts : ∀ x ∈ xs, IsMember x.literalChars) (h : ∀ x ∈ xs, ∃ y, Remade e x y) :
    ∃ ys, Remade (.set e) (set xs) (set ys) := by
  have hperm := sortBy_perm id xs
  refine ⟨sortBy id xs, ?_, same_set_of_perm hperm hxs hfloat, fun hhash => nomatch hhash⟩
  rw [create_set_eq_ok_iff, literalChars_set, literalChars_list]
  refine ⟨((sortBy id xs).map literalChars).map some, sortBy id xs, ?_, ?_,
    setOf_of_distinct (hdistinct.perm hperm hxs)⟩
  · refine members_enclosed .square (List.forall_mem_map.2 fun y hy => ?_)
    exact hparts y (hperm.mem_iff.1 hy)
  · simp only [List.forall₂_map_left_iff, List.forall₂_same]
    intro y hy
    have hmem := hperm.mem_iff.1 hy
    obtain ⟨z, hz⟩ := h y hmem
    have hhash := hdistinct.hashable y hmem
    have hmade := hz.made
    -- a member has no set in it, so it is made again as it was
    rw [hz.eq hhash] at hmade
    exact ⟨hmade, hhash⟩

/-- What is made of the literal of an entry, whose key may be one. -/
structure RemadeEntry (k v : Descriptor) (e f : Value × Value) : Prop where
  components : IsComponent e.1.literalChars ∧ IsComponent e.2.literalChars
  hashable : e.1.isHashable = true
  key : Remade k e.1 e.1
  item : Remade v e.2 f.2
  same_key : f.1 = e.1

theorem RemadeEntry.makesEntry {k v : Descriptor} {e f : Value × Value} (h : RemadeEntry k v e f) :
    MakesEntry (create Model.externals k) (create Model.externals v)
      (some (e.1.literalChars ++ '=' :: e.2.literalChars)) f := by
  rw [MakesEntry, h.same_key]
  refine ⟨⟨e.1.literalChars, e.2.literalChars, ?_, h.key.made, h.item.made⟩, h.hashable⟩
  exact components_equals h.components.1 h.components.2

theorem remade_map {k v : Descriptor} {es fs : List (Value × Value)}
    (hdistinct : Distinct (es.map Prod.fst)) (h : List.Forall₂ (RemadeEntry k v) es fs) :
    Remade (.map k v) (map es) (map fs) where
  made := by
    have hkeys : fs.map Prod.fst = es.map Prod.fst :=
      map_eq_map_iff_forall₂.2 (h.flip.imp fun f e hef => hef.same_key)
    rw [create_map_eq_ok_iff, literalChars_map]
    refine ⟨(es.map fun e => e.1.literalChars ++ '=' :: e.2.literalChars).map some, fs, ?_, ?_,
      mapOf_of_distinct (hkeys ▸ hdistinct)⟩
    · refine members_enclosed .curly (List.forall_mem_map.2 fun e he => ?_)
      obtain ⟨f, -, hef⟩ := exists_mem_of_forall₂ h.flip e he
      exact isMember_equals hef.components.1.toIsMember hef.components.2.toIsMember
    · simp only [List.forall₂_map_left_iff]
      exact h.imp fun e f hef => hef.makesEntry
  same := by
    simp only [Value.same, h.length_eq, BEq.rfl, Bool.true_and, entriesWithin_iff]
    intro f hf
    obtain ⟨e, he, hef⟩ := exists_mem_of_forall₂ h f hf
    refine ⟨e, he, ?_, hef.item.same⟩
    rw [hef.same_key]
    exact hef.key.same
  eq := fun hhash => nomatch hhash

theorem exists_remade {d : Descriptor} {x : Value} (h : x.Inhabits d)
    (hfloat : d.isFloatFree = true) (hpairs : d.hasPairsApart = true) (hx : x.IsLegible) :
    ∃ y, Remade d x y := by
  induction h with
  | primitive hp =>
    have hscalar := bne_iff_ne.1 hfloat
    refine ⟨_, ?_, same_self (.primitive hp) hfloat, fun _ => rfl⟩
    exact create_primitive_eq_ok_iff.2 (ofLiteral_literal hscalar hp hx)
  | entity name type =>
    have hne : name.toList.isEmpty = false :=
      List.isEmpty_eq_false_iff.2 (hx.plain name (by simp [texts])).ne_nil
    refine ⟨.entity name, ?_, same_self (.entity name type) hfloat, fun _ => rfl⟩
    simp only [literalChars, create, hne, Bool.false_eq_true, if_false, String.ofList_toList]
    rfl
  | list hxs ih =>
    have hremade := fun x hmem => ih x hmem hfloat hpairs (hx.list x hmem)
    have hparts := fun x hmem => (literal_shape (hxs x hmem) hfloat hpairs (hx.list x hmem)).1
    obtain ⟨ys, hys⟩ := exists_forall₂ hremade
    exact ⟨list ys, remade_list hparts hys⟩
  | @set _ e hxs hdistinct ih =>
    have hfloat : e.isFloatFree = true := hfloat
    have hpairs : e.hasPairsApart = true := hpairs
    have hremade := fun x hmem => ih x hmem hfloat hpairs (hx.set x hmem)
    have hparts := fun x hmem => (literal_shape (hxs x hmem) hfloat hpairs (hx.set x hmem)).1
    obtain ⟨ys, hys⟩ := remade_set hfloat hxs hdistinct hparts hremade
    exact ⟨set ys, hys⟩
  | @map es k v hk hv hdistinct ihk ihv =>
    simp only [Descriptor.isFloatFree, Bool.and_eq_true] at hfloat
    simp only [Descriptor.hasPairsApart, Bool.and_eq_true, bne_iff_ne] at hpairs
    obtain ⟨⟨⟨hkpair, hvpair⟩, hkpairs⟩, hvpairs⟩ := hpairs
    have hremade : ∀ e ∈ es, ∃ f, RemadeEntry k v e f := by
      intro e he
      obtain ⟨hkey, hitem⟩ := hx.map e he
      have hhash := hdistinct.hashable e.1 (List.mem_map_of_mem he)
      obtain ⟨y, hy⟩ := ihk e he hfloat.1 hkpairs hkey
      obtain ⟨z, hz⟩ := ihv e he hfloat.2 hvpairs hitem
      -- a key has no set in it, so it is made again as it was
      rw [hy.eq hhash] at hy
      have hcomponents := And.intro
        ((literal_shape (hk e he) hfloat.1 hkpairs hkey).2 hkpair)
        ((literal_shape (hv e he) hfloat.2 hvpairs hitem).2 hvpair)
      exact ⟨(e.1, z), hcomponents, hhash, hy, hz, rfl⟩
    obtain ⟨fs, hfs⟩ := exists_forall₂ hremade
    exact ⟨map fs, remade_map hdistinct hfs⟩
  | @pair x y a b ha hb iha ihb =>
    simp only [Descriptor.isFloatFree, Bool.and_eq_true] at hfloat
    simp only [Descriptor.hasPairsApart, Bool.and_eq_true, bne_iff_ne] at hpairs
    obtain ⟨⟨⟨hapair, hbpair⟩, hapairs⟩, hbpairs⟩ := hpairs
    obtain ⟨hfirst, hsecond⟩ := hx.pair
    obtain ⟨y', hy'⟩ := iha hfloat.1 hapairs hfirst
    obtain ⟨z', hz'⟩ := ihb hfloat.2 hbpairs hsecond
    refine ⟨.pair y' z', ?_, ?_, ?_⟩
    · rw [create_pair_eq_ok_iff, literalChars]
      have hcomponents := components_equals
        ((literal_shape ha hfloat.1 hapairs hfirst).2 hapair)
        ((literal_shape hb hfloat.2 hbpairs hsecond).2 hbpair)
      exact ⟨_, _, hcomponents, y', z', hy'.made, hz'.made, rfl⟩
    · simp only [Value.same, components?, hy'.same, hz'.same, Bool.and_self]
    · intro hhash
      rw [isHashable_pair, Bool.and_eq_true] at hhash
      rw [hy'.eq hhash.1, hz'.eq hhash.2]

/-- A legible value without floats is made again from its literal, provided no pair stands directly
in a pair or in a map. -/
theorem create_literal {d : Descriptor} {x : Value} (h : x.Inhabits d)
    (hfloat : d.isFloatFree = true) (hpairs : d.hasPairsApart = true) (hx : x.IsLegible) :
    ∃ y, Model.create d x.literal = .ok y ∧ same y x = true := by
  obtain ⟨y, hy⟩ := exists_remade h hfloat hpairs hx
  refine ⟨y, ?_, hy.same⟩
  rw [Model.create, literal, String.toList_ofList]
  exact hy.made

/-- A map of lists of pairs; the members of the set are written the other way round. -/
theorem create_literal_map_of_pairs :
    ∃ y, Model.create (.map (.primitive .string)
        (.list (.pair (.external "Vat") (.set (.primitive .integer)))))
        (map [(text "a", list [pair (entity "x,y") (set [int 3, int (-1)])])]).literal = .ok y ∧
      same y (map [(text "a", list [pair (entity "x,y") (set [int 3, int (-1)])])]) = true := by
  have hset : (set [int 3, int (-1)]).Inhabits (.set (.primitive .integer)) := by
    refine .set ?_ ⟨by simp [isHashable, unhashable?], ?_⟩
    · simp only [List.forall_mem_cons]
      exact ⟨.primitive (.integral 3), .primitive (.integral (-1)), by simp⟩
    · simp [same, ← Bool.not_eq_true, samePlace_int]
  have hlist : (list [pair (entity "x,y") (set [int 3, int (-1)])]).Inhabits
      (.list (.pair (.external "Vat") (.set (.primitive .integer)))) := by
    refine .list ?_
    rw [List.forall_mem_singleton]
    exact .pair (.entity "x,y" "Vat") hset
  refine create_literal (.map ?_ ?_ ?_) rfl rfl ⟨?_, ?_⟩
  · rw [List.forall_mem_singleton]
    exact .primitive (.text "a")
  · rw [List.forall_mem_singleton]
    exact hlist
  · exact ⟨by simp [isHashable, unhashable?], by simp⟩
  · decide +kernel
  · intro s hs
    simp only [texts, itemTexts, entryTexts, List.append_nil, List.singleton_append,
      List.mem_cons, List.not_mem_nil, or_false] at hs
    rcases hs with rfl | rfl
    · exact isPlain_of_inert (by decide) (by decide)
    · exact isPlain_of_inert (by decide) (by decide)

end Grounding.Value

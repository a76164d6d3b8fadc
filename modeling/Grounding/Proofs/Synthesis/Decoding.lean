import Grounding.Proofs.Outcome
import Grounding.Proofs.Synthesis.Creation
import Grounding.Synthesis.Decode

/-!
# What JSON data is decoded into

When a value is made from JSON data, and which one. Null is absent by every type; any other data is
decoded part by part, and a set or a map takes the parts in one after another.
-/

namespace Grounding.Synthesis

open Outcome

theorem itemsOf_eq_ok_iff {d : Descriptor} {data : Json} {items : List Json} :
    itemsOf d data = .ok items ↔ data = .array items := by
  unfold itemsOf
  split
  · rw [Except.ok.injEq, Json.array.injEq]
  · next hdata =>
    exact ⟨fun h => (nomatch h), fun h => absurd h (hdata items)⟩

theorem membersOf_eq_ok_iff {d : Descriptor} {data : Json} {members : List (String × Json)} :
    membersOf d data = .ok members ↔ data = .object members := by
  unfold membersOf
  split
  · rw [Except.ok.injEq, Json.object.injEq]
  · next hdata =>
    exact ⟨fun h => (nomatch h), fun h => absurd h (hdata members)⟩

theorem ne_null_of_parts {d : Descriptor} {data : Json} {parts : Json × Json}
    (h : componentsOf d data = .ok parts) : data ≠ .null := by
  rintro rfl
  cases h

/-! ### Members and entries -/

section

variable {decodeItem : Json → Except Fault Value} {makeKey : List Char → Except Fault Value}

def addItem (decodeItem : Json → Except Fault Value) (xs : List Value) (item : Json) :
    Except Fault (List Value) :=
  tryCatch
    (do
      let x ← decodeItem item
      checked x.requireHashable
      return x.insertMember xs)
    fun fault =>
      match fault with
      | .mismatch _ => throw (.literal (.unhashableItem item))
      | fault => throw fault

/-- Makes an entry of a map from a member of an object and puts it there. -/
def putMember (makeKey : List Char → Except Fault Value) (decodeItem : Json → Except Fault Value)
    (es : List (Value × Value)) (member : String × Json) : Except Fault (List (Value × Value)) := do
  let key ← makeKey member.1.toList
  let x ← decodeItem member.2
  checked key.requireHashable
  return key.putEntry x es

def DecodesMember (decodeItem : Json → Except Fault Value) (item : Json) (x : Value) : Prop :=
  decodeItem item = .ok x ∧ x.isHashable = true

/-- A member of an object is made into an entry of a map. -/
def DecodesEntry (makeKey : List Char → Except Fault Value) (decodeItem : Json → Except Fault Value)
    (member : String × Json) (e : Value × Value) : Prop :=
  makeKey member.1.toList = .ok e.1 ∧ decodeItem member.2 = .ok e.2 ∧ e.1.isHashable = true

theorem addItem_eq_ok_iff {xs ys : List Value} {item : Json} :
    addItem decodeItem xs item = .ok ys ↔
      ∃ x, DecodesMember decodeItem item x ∧ x.insertMember xs = ys := by
  have hthrows : ∀ fault : Fault, (match fault with
      | .mismatch _ => throw (.literal (.unhashableItem item))
      | fault => throw fault : Except Fault (List Value)) ≠ .ok ys := by
    intro fault
    cases fault <;> exact fun h => nomatch h
  rw [addItem, tryCatch_eq_ok_iff hthrows]
  simp only [bind_eq_ok_iff, pure_eq_ok_iff, checked_eq, requireHashable_eq_ok_iff,
    DecodesMember, exists_const, and_assoc]

theorem putMember_eq_ok_iff {es fs : List (Value × Value)} {member : String × Json} :
    putMember makeKey decodeItem es member = .ok fs ↔
      ∃ e, DecodesEntry makeKey decodeItem member e ∧ e.1.putEntry e.2 es = fs := by
  simp only [putMember, bind_eq_ok_iff, pure_eq_ok_iff, checked_eq,
    requireHashable_eq_ok_iff, DecodesEntry, exists_const, exists_and_left, Prod.exists, and_assoc]

end

/-! ### Composites -/

variable {ext : Externals (Except Fault)} {data : Json} {x : Value}

theorem decode_null (d : Descriptor) : decode ext d .null = .ok .none := by
  cases d <;> rfl

section

variable (hdata : data ≠ .null)

include hdata

theorem decode_primitive (p : Primitive) : decode ext (.primitive p) data = p.ofJson data := by
  cases data with
  | null => exact absurd rfl hdata
  | _ => exact checked_eq _

theorem decode_external (type : String) :
    decode ext (.external type) data = decodeExternal ext type data := by
  cases data with
  | null => exact absurd rfl hdata
  | _ => rfl

theorem decode_list (e : Descriptor) : decode ext (.list e) data = do
    let items ← reading (itemsOf (.list e) data)
    return .list (← items.mapM (decode ext e)) := by
  cases data with
  | null => exact absurd rfl hdata
  | _ => rfl

theorem decode_set (e : Descriptor) : decode ext (.set e) data = do
    let items ← reading (itemsOf (.set e) data)
    return .set (← items.foldlM (addItem (decode ext e)) []) := by
  cases data with
  | null => exact absurd rfl hdata
  | _ => rfl

theorem decode_map (k v : Descriptor) : decode ext (.map k v) data = do
    let members ← reading (membersOf (.map k v) data)
    return .map (← members.foldlM (putMember (create ext k) (decode ext v)) []) := by
  cases data with
  | null => exact absurd rfl hdata
  | _ => rfl

theorem decode_pair (a b : Descriptor) : decode ext (.pair a b) data = do
    let (first, second) ← reading (componentsOf (.pair a b) data)
    let x ← decode ext a first
    return .pair x (← decode ext b second) := by
  cases data with
  | null => exact absurd rfl hdata
  | _ => rfl

theorem decode_list_eq_ok_iff {e : Descriptor} :
    decode ext (.list e) data = .ok x ↔ ∃ items xs, data = .array items ∧
      List.Forall₂ (fun item y => decode ext e item = .ok y) items xs ∧ .list xs = x := by
  rw [decode_list hdata]
  simp only [bind_eq_ok_iff, pure_eq_ok_iff, reading_eq_ok_iff, itemsOf_eq_ok_iff, mapM_eq_ok_iff,
    exists_and_left]

theorem decode_set_eq_ok_iff {e : Descriptor} :
    decode ext (.set e) data = .ok x ↔ ∃ items xs, data = .array items ∧
      List.Forall₂ (DecodesMember (decode ext e)) items xs ∧ .setOf xs = x := by
  have hfold : ∀ (items : List Json) (xs : List Value),
      items.foldlM (addItem (decode ext e)) [] = .ok xs ↔
        ∃ zs, List.Forall₂ (DecodesMember (decode ext e)) items zs ∧
          zs.foldl (fun ys y => y.insertMember ys) [] = xs :=
    fun items xs => foldlM_eq_ok_iff fun _ _ _ => by exact addItem_eq_ok_iff
  rw [decode_set hdata]
  simp only [bind_eq_ok_iff, pure_eq_ok_iff, reading_eq_ok_iff, itemsOf_eq_ok_iff, hfold]
  constructor
  · rintro ⟨items, hitems, _, ⟨xs, hxs, rfl⟩, rfl⟩
    exact ⟨items, xs, hitems, hxs, rfl⟩
  · rintro ⟨items, xs, hitems, hxs, rfl⟩
    exact ⟨items, hitems, _, ⟨xs, hxs, rfl⟩, rfl⟩

theorem decode_map_eq_ok_iff {k v : Descriptor} :
    decode ext (.map k v) data = .ok x ↔ ∃ members es, data = .object members ∧
      List.Forall₂ (DecodesEntry (create ext k) (decode ext v)) members es ∧ .mapOf es = x := by
  have hfold : ∀ (members : List (String × Json)) (es : List (Value × Value)),
      members.foldlM (putMember (create ext k) (decode ext v)) [] = .ok es ↔
        ∃ fs, List.Forall₂ (DecodesEntry (create ext k) (decode ext v)) members fs ∧
          fs.foldl (fun fs e => e.1.putEntry e.2 fs) [] = es :=
    fun members es => foldlM_eq_ok_iff fun _ _ _ => by exact putMember_eq_ok_iff
  rw [decode_map hdata]
  simp only [bind_eq_ok_iff, pure_eq_ok_iff, reading_eq_ok_iff, membersOf_eq_ok_iff, hfold]
  constructor
  · rintro ⟨members, hmembers, _, ⟨es, hes, rfl⟩, rfl⟩
    exact ⟨members, es, hmembers, hes, rfl⟩
  · rintro ⟨members, es, hmembers, hes, rfl⟩
    exact ⟨members, hmembers, _, ⟨es, hes, rfl⟩, rfl⟩

theorem decode_pair_eq_ok_iff {a b : Descriptor} :
    decode ext (.pair a b) data = .ok x ↔ ∃ i j, componentsOf (.pair a b) data = .ok (i, j) ∧
      ∃ y z, decode ext a i = .ok y ∧ decode ext b j = .ok z ∧ .pair y z = x := by
  rw [decode_pair hdata]
  simp only [bind_eq_ok_iff, pure_eq_ok_iff, reading_eq_ok_iff, Prod.exists, exists_and_left]

end

end Grounding.Synthesis

import Grounding.Proofs.Itemwise
import Grounding.Proofs.Value.Inhabitants

/-!
# Values in another order

A set has no order of its own: it may be gone through in any order, at any depth of a value. A value
whose sets come in another order is still of its type.
-/

namespace Grounding.Value

open Itemwise

/-- A value with the members of its sets in another order. -/
inductive Reordered : Value → Value → Prop
  | refl (x : Value) : Reordered x x
  | list {xs ys : List Value} : List.Forall₂ Reordered xs ys → Reordered (.list xs) (.list ys)
  | set {xs ys : List Value} : ys.Perm xs → Reordered (.set xs) (.set ys)
  | map {es fs : List (Value × Value)} :
      es.map Prod.fst = fs.map Prod.fst →
        List.Forall₂ Reordered (es.map Prod.snd) (fs.map Prod.snd) → Reordered (.map es) (.map fs)
  | pair {x y x' y' : Value} : Reordered x x' → Reordered y y' →
      Reordered (.pair x y) (.pair x' y')

theorem Reordered.eq_of_admits {p : Primitive} {x y : Value} (hxy : x.Reordered y)
    (hx : p.Admits x) : y = x := by
  unfold Primitive.Admits at hx
  generalize p.scalar = k at hx
  cases hx <;> cases hxy <;> rfl

theorem Inhabits.reordered {d : Descriptor} {x y : Value} (h : x.Inhabits d)
    (hxy : x.Reordered y) : y.Inhabits d := by
  induction h generalizing y with
  | primitive hp =>
    rw [hxy.eq_of_admits hp]
    exact .primitive hp
  | entity name type =>
    cases hxy
    exact .entity name type
  | list hxs ih =>
    cases hxy with
    | refl => exact .list hxs
    | list hitems =>
      refine .list fun y hy => ?_
      obtain ⟨x, hx, hxy⟩ := exists_mem_of_forall₂ hitems y hy
      exact ih x hx hxy
  | set hxs hdistinct ih =>
    cases hxy with
    | refl => exact .set hxs hdistinct
    | set hperm =>
      exact .set (fun y hy => hxs y (hperm.mem_iff.1 hy)) (hdistinct.perm hperm hxs)
  | @map es k v hk hv hdistinct ihk ihv =>
    cases hxy with
    | refl => exact .map hk hv hdistinct
    | @map _ fs hkeys hitems =>
      refine .map (fun f hf => ?_) (fun f hf => ?_) (hkeys ▸ hdistinct)
      · have hkey : f.1 ∈ es.map Prod.fst := hkeys ▸ List.mem_map_of_mem hf
        obtain ⟨e, he, heq⟩ := List.mem_map.1 hkey
        exact heq ▸ hk e he
      · obtain ⟨x, hx, hxy⟩ := exists_mem_of_forall₂ hitems f.2 (List.mem_map_of_mem hf)
        obtain ⟨e, he, rfl⟩ := List.mem_map.1 hx
        exact ihv e he hxy
  | pair ha hb iha ihb =>
    cases hxy with
    | refl => exact .pair ha hb
    | pair hx hy => exact .pair (iha hx) (ihb hy)

end Grounding.Value

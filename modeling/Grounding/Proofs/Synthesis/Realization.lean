import Grounding.Proofs.Value.Inhabitants

/-!
# Entities and the objects behind them

In a driver an object takes the place of each entity. If these objects are as hashable and as
distinct as identifiers are, then what is equal in the model is equal in the driver, and nothing
else is.
-/

namespace Grounding

def Descriptor.externalTypes : Descriptor → List String
  | primitive _ => []
  | external type => [type]
  | list e | set e => e.externalTypes
  | map a b | pair a b => a.externalTypes ++ b.externalTypes

/-- Objects that may stand for the entities of a type. -/
structure Identifies (make : String → Value) : Prop where
  hashable : ∀ name, (make name).isHashable = true
  same_iff : ∀ m n, Value.same (make m) (make n) = true ↔ m = n

namespace Value

/-- A value with the objects of the external types in place of its entities. -/
def realize (make : String → String → Value) : Descriptor → Value → Value
  | .external type, entity name => make type name
  | .list e, list xs => list (xs.map (realize make e))
  | .set e, set xs => set (xs.map (realize make e))
  | .map k v, map es => map (es.map (Prod.map (realize make k) (realize make v)))
  | .pair a b, pair x y => pair (realize make a x) (realize make b y)
  | _, x => x

variable {make : String → String → Value}

theorem realize_primitive (p : Primitive) (x : Value) : realize make (.primitive p) x = x := by
  simp only [realize]

theorem isHashable_realize {d : Descriptor} {x : Value} (hx : x.Inhabits d)
    (hmake : ∀ type ∈ d.externalTypes, Identifies (make type)) :
    (realize make d x).isHashable = x.isHashable := by
  induction hx with
  | primitive _ => rw [realize_primitive]
  | entity name type =>
    exact (hmake type (List.mem_singleton_self type)).hashable name
  | list _ _ => rfl
  | set _ _ _ => rfl
  | map _ _ _ _ _ => rfl
  | pair _ _ iha ihb =>
    simp only [Descriptor.externalTypes, List.forall_mem_append] at hmake
    rw [realize, isHashable_pair, isHashable_pair, iha hmake.1, ihb hmake.2]

/-- What may stand in a set is equal in the driver if and only if it is in the model. -/
theorem same_realize {d : Descriptor} {x y : Value} (hx : x.Inhabits d) (hy : y.Inhabits d)
    (hhash : x.isHashable = true) (hmake : ∀ type ∈ d.externalTypes, Identifies (make type)) :
    same (realize make d x) (realize make d y) = same x y := by
  induction hx generalizing y with
  | primitive _ => rw [realize_primitive, realize_primitive]
  | entity name type =>
    cases hy with
    | entity other _ =>
      rw [Bool.eq_iff_iff, realize, realize]
      simp only [(hmake type (List.mem_singleton_self type)).same_iff, same, beq_iff_eq]
  | list _ _ => cases hhash
  | set _ _ _ => cases hhash
  | map _ _ _ _ _ => cases hhash
  | pair _ _ iha ihb =>
    cases hy with
    | pair ha hb =>
      rw [isHashable_pair, Bool.and_eq_true] at hhash
      simp only [Descriptor.externalTypes, List.forall_mem_append] at hmake
      simp only [realize, same, components?, iha ha hhash.1 hmake.1, ihb hb hhash.2 hmake.2]

end Value

end Grounding

import Grounding.Proofs.Itemwise
import Grounding.Proofs.Synthesis.Creation
import Grounding.Proofs.Value.Inhabitants
import Grounding.Synthesis.Model

/-!
# Made values have their type

Whatever is made from a literal in a model is a value of the type that it was made for, and a literal
from which nothing is made is refused. No other fault arises.
-/

namespace Grounding

open Synthesis Itemwise Outcome

/-! ### Primitive types -/

theorem Primitive.admits_default (p : Primitive) : p.Admits p.default := by
  unfold Admits default
  cases p.scalar with
  | text => exact .text _
  | character => exact .character '0'
  | boolean => exact .boolean _
  | integral => exact .integral _
  | floating => exact .floating _

theorem Primitive.admits_of_literal? {p : Primitive} {literal : List Char} {x : Value}
    (hne : literal ≠ []) (h : p.ofLiteral? literal = some x) : p.Admits x := by
  unfold ofLiteral? at h
  unfold Admits
  generalize p.scalar = k at h ⊢
  cases k with
  | text =>
    rw [← Option.some.inj h]
    exact .text _
  | character =>
    obtain ⟨c, rest, rfl⟩ := List.exists_cons_of_ne_nil hne
    rw [← Option.some.inj h]
    exact .character c
  | boolean =>
    obtain ⟨b, -, rfl⟩ := Option.map_eq_some_iff.1 h
    exact .boolean b
  | integral =>
    obtain ⟨n, -, rfl⟩ := Option.map_eq_some_iff.1 h
    exact .integral n
  | floating =>
    obtain ⟨y, -, rfl⟩ := Option.map_eq_some_iff.1 h
    exact .floating y

theorem Primitive.admits_of_literal {p : Primitive} {literal : List Char} {x : Value}
    (h : p.ofLiteral literal = .ok x) : p.Admits x := by
  unfold ofLiteral at h
  split at h
  · exact Except.ok.inj h ▸ p.admits_default
  · next hne =>
    split at h
    · next y hy =>
      rw [List.isEmpty_iff] at hne
      exact Except.ok.inj h ▸ admits_of_literal? hne hy
    · cases h

namespace Value

/-! ### Sets and maps -/

theorem inhabits_setOf {e : Descriptor} {xs : List Value}
    (hxs : ∀ x ∈ xs, x.Inhabits e ∧ x.isHashable = true) : (setOf xs).Inhabits (.set e) := by
  obtain ⟨ys, hys, hmembers, hdistinct⟩ := exists_setOf hxs
  rw [hys]
  exact .set hmembers hdistinct

theorem inhabits_mapOf {k v : Descriptor} {es : List (Value × Value)}
    (hes : ∀ e ∈ es, (e.1.Inhabits k ∧ e.1.isHashable = true) ∧ e.2.Inhabits v) :
    (mapOf es).Inhabits (.map k v) := by
  obtain ⟨fs, hfs, hentries, hdistinct⟩ := exists_mapOf (P := fun y => y.Inhabits k)
    (Q := fun y => y.Inhabits v) hes
  rw [hfs]
  exact .map (fun f hf => (hentries f hf).1) (fun f hf => (hentries f hf).2) hdistinct

end Value

namespace Synthesis

theorem inhabits_of_create {d : Descriptor} : ∀ {literal : List Char} {x : Value},
    create Model.externals d literal = (.ok x : Except Fault Value) → x.Inhabits d := by
  induction d with
  | primitive p =>
    intro literal x h
    exact .primitive (Primitive.admits_of_literal (create_primitive_eq_ok_iff.1 h))
  | external type =>
    intro literal x h
    rw [← Except.ok.inj h]
    exact .entity _ type
  | list e ih =>
    intro literal x h
    obtain ⟨parts, xs, -, hxs, rfl⟩ := create_list_eq_ok_iff.1 h
    refine .list fun y hy => ?_
    obtain ⟨part, -, hmade⟩ := exists_mem_of_forall₂ hxs y hy
    exact ih hmade
  | set e ih =>
    intro literal x h
    obtain ⟨parts, xs, -, hxs, rfl⟩ := create_set_eq_ok_iff.1 h
    refine Value.inhabits_setOf fun y hy => ?_
    obtain ⟨part, -, hmade, hhash⟩ := exists_mem_of_forall₂ hxs y hy
    exact ⟨ih hmade, hhash⟩
  | map k v ihk ihv =>
    intro literal x h
    obtain ⟨parts, es, -, hes, rfl⟩ := create_map_eq_ok_iff.1 h
    refine Value.inhabits_mapOf fun e he => ?_
    obtain ⟨part, -, ⟨first, second, -, hkey, hitem⟩, hhash⟩ := exists_mem_of_forall₂ hes e he
    exact ⟨⟨ihk hkey, hhash⟩, ihv hitem⟩
  | pair a b iha ihb =>
    intro literal x h
    obtain ⟨first, second, -, y, z, hy, hz, rfl⟩ := create_pair_eq_ok_iff.1 h
    exact .pair (iha hy) (ihb hz)

end Synthesis

/-! ### Refusals -/

/-- A fault of what was given, not of an operation on it. -/
def Fault.IsRefusal (f : Fault) : Prop := ∃ e, f = .literal e

namespace Synthesis

theorem failsOnly_reading {α : Type} (r : Except LiteralError α) :
    FailsOnly Fault.IsRefusal (reading r : Except Fault α) := by
  intro f hf
  cases r with
  | ok a => cases hf
  | error e => exact ⟨e, (Except.error.inj hf).symm⟩

theorem failsOnly_create (d : Descriptor) (literal : List Char) :
    FailsOnly Fault.IsRefusal (create Model.externals d literal) := by
  induction d generalizing literal with
  | primitive p => exact failsOnly_reading _
  | external type => exact failsOnly_pure _
  | list e ih =>
    refine (failsOnly_reading _).bind fun parts _ => ?_
    exact FailsOnly.bind (.mapM fun part _ => ih _) fun xs _ => failsOnly_pure _
  | set e ih =>
    refine (failsOnly_reading _).bind fun parts _ => ?_
    refine FailsOnly.bind (.foldlM (fun part _ xs => ?_) _) fun xs _ => failsOnly_pure _
    exact (ih _).bind fun x _ => failsOnly_reading _
  | map k v ihk ihv =>
    refine (failsOnly_reading _).bind fun parts _ => ?_
    refine FailsOnly.bind (.foldlM (fun part _ es => ?_) _) fun es _ => failsOnly_pure _
    refine (failsOnly_reading _).bind fun ⟨first, second⟩ _ => ?_
    refine (ihk first).bind fun key _ => ?_
    exact (ihv second).bind fun item _ => failsOnly_reading _
  | pair a b iha ihb =>
    refine (failsOnly_reading _).bind fun ⟨first, second⟩ _ => ?_
    refine (iha first).bind fun x _ => ?_
    exact (ihb second).bind fun y _ => failsOnly_pure _

/-- From any literal, or from none, a model makes a value of the type, or else it refuses the
literal. -/
theorem create_inhabits_or_refuses (d : Descriptor) (literal : Option String) :
    (∃ x, Model.create d (literal.getD "") = .ok x ∧ x.Inhabits d) ∨
      ∃ e, Model.create d (literal.getD "") = .error (.literal e) := by
  cases hcreate : Model.create d (literal.getD "") with
  | ok x => exact .inl ⟨x, rfl, inhabits_of_create hcreate⟩
  | error f =>
    obtain ⟨e, rfl⟩ := failsOnly_create d _ f hcreate
    exact .inr ⟨e, rfl⟩

end Synthesis

end Grounding

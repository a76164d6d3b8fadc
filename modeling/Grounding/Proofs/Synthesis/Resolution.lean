import Grounding.Proofs.Synthesis.Mirror
import Grounding.Proofs.Synthesis.Realization

/-!
# Registered constructors

What a type is resolved to in each state of a driver. A type with a registered constructor is
resolved to that one, unless it has been resolved to another one before.
-/

namespace Grounding

/-- A constructor that makes the given objects of identifiers. -/
structure Constructor.Makes (c : Constructor) (make : String → Value) : Prop where
  accepts : c.acceptsIdentifier = true
  total : ∀ name, c.ofIdentifier name = some (make name)
  identifies : Identifies make

namespace Host

/-- The constructor that is registered for a type makes the given objects. -/
def Registers (h : Host) (make : String → String → Value) (type : String) : Prop :=
  ∃ c, h.registry.lookup type = some c ∧ c.Makes (make type)

/-- A type has been resolved to nothing but the constructor that is registered for it. -/
def IsCurrent (h : Host) (type : String) : Prop :=
  ∀ c, h.resolved.lookup type = some c → h.registry.lookup type = some c

/-- Some types are registered, and none of them has been resolved to anything else. -/
def Ready (make : String → String → Value) (types : List String) (h : Host) : Prop :=
  ∀ type ∈ types, h.Registers make type ∧ h.IsCurrent type

variable (lib : Library)

theorem resolve_run (type : String) (h : Host) :
    (resolve lib type).run h = match h.resolved.lookup type with
      | some c => (.ok c, h)
      | none =>
        match h.locate lib type with
        | .ok c =>
          if c.acceptsIdentifier then (.ok c, { h with resolved := (type, c) :: h.resolved })
          else (.error (.external (.noConstructor type)), h)
        | .error e => (.error e, h) := by
  have hget : (get : Hosted Host).run h = (.ok h, h) := rfl
  rw [resolve, Outcome.run_bind, hget]
  dsimp only
  cases h.resolved.lookup type with
  | some c => rfl
  | none =>
    cases h.locate lib type with
    | error e => rfl
    | ok c =>
      have hlocated : (Synthesis.checked (.ok c) : Hosted Constructor).run h = (.ok c, h) := rfl
      rw [Outcome.run_bind, hlocated]
      dsimp only
      by_cases hc : c.acceptsIdentifier = true
      · rw [if_pos hc, if_pos hc]
        rfl
      · rw [if_neg hc, if_neg hc]
        rfl

theorem resolve_registered {h : Host} {type : String} {c : Constructor}
    (hc : h.registry.lookup type = some c) (haccepts : c.acceptsIdentifier = true)
    (hcurrent : h.IsCurrent type) :
    ∃ h', (resolve lib type).run h = (.ok c, h') ∧ h'.registry = h.registry ∧
      ∀ other, h.IsCurrent other → h'.IsCurrent other := by
  cases hresolved : h.resolved.lookup type with
  | some c' =>
    obtain rfl : c' = c := Option.some.inj ((hcurrent c' hresolved).symm.trans hc)
    refine ⟨h, ?_, rfl, fun _ hother => hother⟩
    rw [resolve_run, hresolved]
  | none =>
    refine ⟨{ h with resolved := (type, c) :: h.resolved }, ?_, rfl, fun other hother c' hc' => ?_⟩
    · have hlocate : h.locate lib type = .ok c := by rw [locate, hc]
      rw [resolve_run, hresolved, hlocate]
      exact if_pos haccepts
    · rw [List.lookup_cons] at hc'
      split at hc'
      · next heq =>
        rw [← Option.some.inj hc', beq_iff_eq.1 heq]
        exact hc
      · exact hother c' hc'

theorem ofIdentifier_mirrors {make : String → String → Value} {types : List String} {type : String}
    (htype : type ∈ types) (name : String) :
    Mirrors (Ready make types) id (pure (make type name)) (ofIdentifier lib type name) := by
  intro h hready
  obtain ⟨⟨c, hc, hmakes⟩, hcurrent⟩ := hready type htype
  obtain ⟨h', hrun, hregistry, hkeeps⟩ := resolve_registered lib hc hmakes.accepts hcurrent
  refine ⟨h', fun t ht => ?_, ?_⟩
  · obtain ⟨hregisters, hother⟩ := hready t ht
    refine ⟨?_, hkeeps t hother⟩
    rwa [Registers, hregistry]
  · rw [ofIdentifier, Outcome.run_bind, hrun]
    simp only [hmakes.total]
    rfl

end Host

end Grounding

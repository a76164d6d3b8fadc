import Grounding.Proofs.Outcome
import Grounding.Synthesis.Host

/-!
# Syntheses that mirror each other

A synthesis in a driver mirrors one in the model if, from every state with some property, it ends
with the image of the same value, or with the same fault, in a state with that property. Such
syntheses may be put together in all the ways in which a value is made of others.
-/

namespace Grounding

open Synthesis Outcome

/-- From states with the property `inv`, the second synthesis ends as the first one does. -/
def Mirrors {α β : Type} (inv : Host → Prop) (g : α → β) (x : Except Fault α) (y : Hosted β) :
    Prop :=
  ∀ h, inv h → ∃ h', inv h' ∧ y.run h = (x.map g, h')

variable {inv : Host → Prop} {α β γ δ : Type} {g : α → β} {f : γ → δ}

theorem mirrors_pure (a : α) : Mirrors inv g (pure a) (pure (g a)) :=
  fun h hinv => ⟨h, hinv, rfl⟩

theorem mirrors_reading {r : Except LiteralError α} {s : Except LiteralError β}
    (hrs : r.map g = s) : Mirrors inv g (reading r) (reading s) := by
  intro h hinv
  subst hrs
  cases r with
  | ok a => exact ⟨h, hinv, rfl⟩
  | error e => exact ⟨h, hinv, rfl⟩

theorem mirrors_reading_id (r : Except LiteralError α) : Mirrors inv id (reading r) (reading r) :=
  mirrors_reading (by cases r <;> rfl)

theorem Mirrors.bind {x : Except Fault α} {y : Hosted β} {k : α → Except Fault γ}
    {l : β → Hosted δ} (hx : Mirrors inv g x y)
    (hk : ∀ a, x = .ok a → Mirrors inv f (k a) (l (g a))) :
    Mirrors inv f (x >>= k) (y >>= l) := by
  intro h hinv
  obtain ⟨h₁, hinv₁, hrun⟩ := hx h hinv
  rw [run_bind, hrun]
  cases x with
  | ok a => exact hk a rfl h₁ hinv₁
  | error e => exact ⟨h₁, hinv₁, rfl⟩

theorem Mirrors.mapM {as : List α} {x : α → Except Fault γ} {y : α → Hosted δ}
    (h : ∀ a ∈ as, Mirrors inv f (x a) (y a)) :
    Mirrors inv (List.map f) (as.mapM x) (as.mapM y) := by
  induction as with
  | nil => exact mirrors_pure []
  | cons a as ih =>
    rw [List.forall_mem_cons] at h
    rw [List.mapM_cons, List.mapM_cons]
    refine h.1.bind fun c _ => (ih h.2).bind fun cs _ => ?_
    exact mirrors_pure (g := List.map f) (c :: cs)

theorem Mirrors.foldlM {P : α → Prop} {step : α → γ → Except Fault α} {step' : β → γ → Hosted β}
    (hstep : ∀ a c, P a → Mirrors inv g (step a c) (step' (g a) c))
    (hkeeps : ∀ a c a', P a → step a c = .ok a' → P a') {cs : List γ} {a : α} (ha : P a) :
    Mirrors inv g (cs.foldlM step a) (cs.foldlM step' (g a)) := by
  induction cs generalizing a with
  | nil => exact mirrors_pure a
  | cons c cs ih =>
    rw [List.foldlM_cons, List.foldlM_cons]
    exact (hstep a c ha).bind fun a' ha' => ih (hkeeps a c a' ha ha')

end Grounding

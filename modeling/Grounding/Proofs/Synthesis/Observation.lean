import Grounding.Proofs.Outcome
import Grounding.Synthesis.Create
import Grounding.Synthesis.Host

/-!
# What a synthesis yields

In a model a synthesis may fail, and in a driver it changes a state besides. What can be said of
both is which results a computation yields, from which state and in which. That is known of a
computation once it is known of its steps, so what follows from it holds in models and in drivers
alike.
-/

namespace Grounding

open Synthesis Outcome

/-- Which results the computations of some kind yield. -/
structure Observation (m : Type → Type) [Monad m] [MonadExcept Fault m] (σ : Type) where
  /-- From the first state, the computation comes to the result and ends in the second state. -/
  Yields {α : Type} : m α → σ → α → σ → Prop
  yields_pure_iff {α : Type} {a b : α} {s s' : σ} : Yields (pure a) s b s' ↔ a = b ∧ s = s'
  yields_bind_iff {α β : Type} {x : m α} {f : α → m β} {b : β} {s s' : σ} :
    Yields (x >>= f) s b s' ↔ ∃ a s₁, Yields x s a s₁ ∧ Yields (f a) s₁ b s'
  not_yields_throw {α : Type} {e : Fault} {a : α} {s s' : σ} : ¬ Yields (throw e : m α) s a s'

namespace Observation

/-- A model has no state. -/
def model : Observation (Except Fault) Unit where
  Yields x _ a _ := x = .ok a
  yields_pure_iff := by simp [pure_eq_ok_iff]
  yields_bind_iff := by simp [bind_eq_ok_iff]
  not_yields_throw := nofun

def driver : Observation Hosted Host where
  Yields x h a h' := x.run h = (.ok a, h')
  yields_pure_iff := run_pure_eq_ok_iff
  yields_bind_iff := run_bind_eq_ok_iff
  not_yields_throw := by
    intro _ _ _ _ _ h
    exact nomatch (Prod.mk.inj h).1

theorem eq_ok_iff_yields {α : Type} {x : Except Fault α} {a : α} :
    x = .ok a ↔ model.Yields x () a () := Iff.rfl

variable {m : Type → Type} [Monad m] [MonadExcept Fault m] {σ α β γ : Type}
  (o : Observation m σ) {s s' : σ}

theorem yields_reading_iff {r : Except LiteralError α} {a : α} :
    o.Yields (reading r : m α) s a s' ↔ r = .ok a ∧ s = s' := by
  cases r with
  | ok b =>
    rw [reading, o.yields_pure_iff]
    simp
  | error e => simp [reading, o.not_yields_throw]

theorem yields_reading_bind_iff {r : Except LiteralError α} {f : α → m β} {b : β} :
    o.Yields (reading r >>= f) s b s' ↔ ∃ a, r = .ok a ∧ o.Yields (f a) s b s' := by
  rw [o.yields_bind_iff]
  constructor
  · rintro ⟨a, s₁, hr, h⟩
    obtain ⟨ha, rfl⟩ := o.yields_reading_iff.1 hr
    exact ⟨a, ha, h⟩
  · rintro ⟨a, ha, h⟩
    exact ⟨a, s, o.yields_reading_iff.2 ⟨ha, rfl⟩, h⟩

theorem yields_checked_iff {r : Except Fault α} {a : α} :
    o.Yields (checked r : m α) s a s' ↔ r = .ok a ∧ s = s' := by
  cases r with
  | ok b =>
    rw [checked, o.yields_pure_iff]
    simp
  | error e => simp [checked, o.not_yields_throw]

theorem yields_map_iff {x : m α} {f : α → β} {b : β} :
    o.Yields (do return f (← x)) s b s' ↔ ∃ a, o.Yields x s a s' ∧ f a = b := by
  rw [o.yields_bind_iff]
  constructor
  · rintro ⟨a, s₁, hx, h⟩
    obtain ⟨hb, rfl⟩ := o.yields_pure_iff.1 h
    exact ⟨a, hx, hb⟩
  · rintro ⟨a, hx, hb⟩
    exact ⟨a, s', hx, o.yields_pure_iff.2 ⟨hb, rfl⟩⟩

variable [LawfulMonad m]

theorem yields_mapM_iff {f : α → m β} {g : α → m γ} {image : γ → β}
    (himage : ∀ a s b s', o.Yields (f a) s b s' ↔ ∃ c, o.Yields (g a) s c s' ∧ image c = b)
    {as : List α} {bs : List β} :
    o.Yields (as.mapM f) s bs s' ↔ ∃ cs, o.Yields (as.mapM g) s cs s' ∧ cs.map image = bs := by
  induction as generalizing s bs with
  | nil =>
    simp only [List.mapM_nil, o.yields_pure_iff]
    constructor
    · rintro ⟨rfl, hs⟩
      exact ⟨[], ⟨rfl, hs⟩, rfl⟩
    · rintro ⟨_, ⟨rfl, hs⟩, rfl⟩
      exact ⟨rfl, hs⟩
  | cons a as ih =>
    simp only [List.mapM_cons]
    rw [o.yields_bind_iff]
    constructor
    · rintro ⟨b, s₁, hb, h⟩
      obtain ⟨bs', hbs, rfl⟩ := o.yields_map_iff.1 h
      obtain ⟨c, hc, rfl⟩ := (himage a s b s₁).1 hb
      obtain ⟨cs, hcs, rfl⟩ := ih.1 hbs
      exact ⟨c :: cs, o.yields_bind_iff.2 ⟨c, s₁, hc, o.yields_map_iff.2 ⟨cs, hcs, rfl⟩⟩, rfl⟩
    · rintro ⟨_, h, rfl⟩
      obtain ⟨c, s₁, hc, h⟩ := o.yields_bind_iff.1 h
      obtain ⟨cs, hcs, rfl⟩ := o.yields_map_iff.1 h
      exact ⟨image c, s₁, (himage a s _ s₁).2 ⟨c, hc, rfl⟩,
        o.yields_map_iff.2 ⟨cs.map image, ih.2 ⟨cs, hcs, rfl⟩, rfl⟩⟩

/-- Where each step of a fold makes something and puts it if it is admitted, the fold puts what is
made one after another, if all of it is admitted. -/
theorem yields_foldlM_iff {make : α → m γ} {admits : γ → Prop} {put : β → γ → β}
    {step : β → α → m β}
    (hstep : ∀ b a s b' s', o.Yields (step b a) s b' s' ↔
      ∃ c, (o.Yields (make a) s c s' ∧ admits c) ∧ put b c = b')
    {as : List α} {b b' : β} :
    o.Yields (as.foldlM step b) s b' s' ↔
      ∃ cs, o.Yields (as.mapM make) s cs s' ∧ (∀ c ∈ cs, admits c) ∧ cs.foldl put b = b' := by
  induction as generalizing s b with
  | nil =>
    simp only [List.foldlM_nil, List.mapM_nil, o.yields_pure_iff]
    constructor
    · rintro ⟨hb, hs⟩
      exact ⟨[], ⟨rfl, hs⟩, List.forall_mem_nil _, hb⟩
    · rintro ⟨_, ⟨rfl, hs⟩, -, hb⟩
      exact ⟨hb, hs⟩
  | cons a as ih =>
    simp only [List.foldlM_cons, List.mapM_cons]
    rw [o.yields_bind_iff]
    constructor
    · rintro ⟨mid, s₁, hmid, h⟩
      obtain ⟨c, ⟨hc, hadmits⟩, rfl⟩ := (hstep b a s mid s₁).1 hmid
      obtain ⟨cs, hcs, hall, hfold⟩ := ih.1 h
      refine ⟨c :: cs, ?_, List.forall_mem_cons.2 ⟨hadmits, hall⟩, hfold⟩
      exact o.yields_bind_iff.2 ⟨c, s₁, hc, o.yields_map_iff.2 ⟨cs, hcs, rfl⟩⟩
    · rintro ⟨_, h, hall, hfold⟩
      obtain ⟨c, s₁, hc, h⟩ := o.yields_bind_iff.1 h
      obtain ⟨cs, hcs, rfl⟩ := o.yields_map_iff.1 h
      obtain ⟨hadmits, hall⟩ := List.forall_mem_cons.1 hall
      refine ⟨put b c, s₁, (hstep b a s _ s₁).2 ⟨c, ⟨hc, hadmits⟩, rfl⟩, ?_⟩
      exact ih.2 ⟨cs, hcs, hall, hfold⟩

end Observation

end Grounding

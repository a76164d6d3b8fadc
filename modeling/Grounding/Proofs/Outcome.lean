import Mathlib.Data.List.Forall2

/-!
# Outcomes

How a computation that may fail is taken apart: it succeeds when each of its steps does, and its
fault is one of theirs.
-/

namespace Grounding.Outcome

variable {ε α β γ : Type}

theorem bind_eq_ok_iff {x : Except ε α} {f : α → Except ε β} {b : β} :
    (x >>= f) = .ok b ↔ ∃ a, x = .ok a ∧ f a = .ok b := by
  cases x with
  | error e => exact ⟨fun h => (nomatch h), fun ⟨_, h, _⟩ => (nomatch h)⟩
  | ok a => exact ⟨fun h => ⟨a, rfl, h⟩, fun ⟨_, ha, h⟩ => Except.ok.inj ha ▸ h⟩

theorem pure_eq_ok_iff {a b : α} : (pure a : Except ε α) = .ok b ↔ a = b :=
  ⟨Except.ok.inj, congrArg Except.ok⟩

theorem map_eq_ok_iff {x : Except ε α} {f : α → β} {b : β} :
    (do return f (← x)) = Except.ok b ↔ ∃ a, x = .ok a ∧ f a = b := by
  rw [bind_eq_ok_iff]
  exact exists_congr fun a => and_congr_right fun _ => pure_eq_ok_iff

theorem bind_eq_error_iff {x : Except ε α} {f : α → Except ε β} {e : ε} :
    (x >>= f) = .error e ↔ x = .error e ∨ ∃ a, x = .ok a ∧ f a = .error e := by
  cases x with
  | error e' =>
    constructor
    · exact fun h => .inl (congrArg Except.error (Except.error.inj h))
    · rintro (h | ⟨a, ha, -⟩)
      · exact congrArg Except.error (Except.error.inj h)
      · cases ha
  | ok a =>
    constructor
    · exact fun h => .inr ⟨a, rfl, h⟩
    · rintro (h | ⟨a', ha, h⟩)
      · cases h
      · exact Except.ok.inj ha ▸ h

theorem map_eq_error_iff {x : Except ε α} {f : α → β} {e : ε} :
    (do return f (← x)) = Except.error e ↔ x = .error e := by
  rw [bind_eq_error_iff]
  exact or_iff_left fun ⟨_, _, h⟩ => nomatch h

theorem exceptMap_eq_ok_iff {x : Except ε α} {f : α → β} {b : β} :
    x.map f = .ok b ↔ ∃ a, x = .ok a ∧ f a = b := by
  cases x with
  | error e => exact iff_of_false nofun fun ⟨_, h, _⟩ => nomatch h
  | ok a => exact ⟨fun h => ⟨a, rfl, Except.ok.inj h⟩, fun ⟨_, ha, h⟩ => Except.ok.inj ha ▸ h ▸ rfl⟩

theorem mapError_eq_ok_iff {x : Except ε α} {f : ε → γ} {a : α} :
    x.mapError f = .ok a ↔ x = .ok a := by
  cases x with
  | error e => exact iff_of_false nofun nofun
  | ok b => exact ⟨fun h => congrArg Except.ok (Except.ok.inj h),
      fun h => congrArg Except.ok (Except.ok.inj h)⟩

theorem isOk_iff {x : Except ε α} : x.isOk = true ↔ ∃ a, x = .ok a := by
  cases x with
  | error e => exact iff_of_false nofun nofun
  | ok a => exact iff_of_true rfl ⟨a, rfl⟩

theorem exists_eq_error_iff {x : Except ε α} : (∃ e, x = .error e) ↔ ∀ a, x ≠ .ok a := by
  cases x with
  | error e => exact iff_of_true ⟨e, rfl⟩ fun _ => nofun
  | ok a => exact iff_of_false nofun fun h => h a rfl

theorem tryCatch_eq_ok_iff {x : Except ε α} {handler : ε → Except ε α} {a : α}
    (hthrows : ∀ e, handler e ≠ .ok a) : tryCatch x handler = .ok a ↔ x = .ok a := by
  cases x with
  | ok b => exact Iff.rfl
  | error e => exact ⟨fun h => absurd h (hthrows e), fun h => (nomatch h)⟩

theorem mapM_eq_ok_iff {f : α → Except ε β} {as : List α} {bs : List β} :
    as.mapM f = .ok bs ↔ List.Forall₂ (fun a b => f a = .ok b) as bs := by
  induction as generalizing bs with
  | nil =>
    rw [List.mapM_nil, List.forall₂_nil_left_iff]
    exact ⟨fun h => (Except.ok.inj h).symm, fun h => h ▸ rfl⟩
  | cons a as ih =>
    rw [List.mapM_cons, bind_eq_ok_iff]
    constructor
    · rintro ⟨b, hb, h⟩
      obtain ⟨bs', hbs', rfl⟩ := map_eq_ok_iff.1 h
      exact .cons hb (ih.1 hbs')
    · rintro (_ | ⟨hb, hbs⟩)
      exact ⟨_, hb, map_eq_ok_iff.2 ⟨_, ih.2 hbs, rfl⟩⟩

theorem exists_mapM_eq_error_iff {f : α → Except ε β} {as : List α} :
    (∃ e, as.mapM f = .error e) ↔ ∃ a ∈ as, ∃ e, f a = .error e := by
  induction as with
  | nil => exact iff_of_false (fun ⟨_, h⟩ => nomatch h) nofun
  | cons a as ih =>
    simp only [List.mapM_cons, bind_eq_error_iff, List.exists_mem_cons_iff, ← ih]
    constructor
    · rintro ⟨e, h | ⟨b, -, h | ⟨bs, -, h⟩⟩⟩
      · exact .inl ⟨e, h⟩
      · exact .inr ⟨e, h⟩
      · cases h
    · rintro (⟨e, h⟩ | ⟨e, h⟩)
      · exact ⟨e, .inl h⟩
      · cases hb : f a with
        | error e' => exact ⟨e', .inl rfl⟩
        | ok b => exact ⟨e, .inr ⟨b, rfl, .inl h⟩⟩

/-- Where each step of a fold puts something that it makes of its item, the fold puts all that is
made of the items. -/
theorem foldlM_eq_ok_iff {step : β → α → Except ε β} {makes : α → γ → Prop} {put : β → γ → β}
    (hstep : ∀ b a b', step b a = .ok b' ↔ ∃ c, makes a c ∧ put b c = b') {as : List α} {b b' : β} :
    as.foldlM step b = .ok b' ↔ ∃ cs, List.Forall₂ makes as cs ∧ cs.foldl put b = b' := by
  induction as generalizing b with
  | nil =>
    rw [List.foldlM_nil]
    constructor
    · exact fun h => ⟨[], .nil, Except.ok.inj h⟩
    · rintro ⟨cs, hcs, rfl⟩
      cases hcs
      rfl
  | cons a as ih =>
    rw [List.foldlM_cons, bind_eq_ok_iff]
    constructor
    · rintro ⟨mid, hmid, h⟩
      obtain ⟨c, hc, rfl⟩ := (hstep _ _ _).1 hmid
      obtain ⟨cs, hcs, rfl⟩ := ih.1 h
      exact ⟨c :: cs, .cons hc hcs, rfl⟩
    · rintro ⟨_, _ | ⟨hc, hcs⟩, rfl⟩
      exact ⟨_, (hstep _ _ _).2 ⟨_, hc, rfl⟩, ih.2 ⟨_, hcs, rfl⟩⟩

/-! ### Faults -/

/-- A computation does not fail but with a fault of some kind. -/
def FailsOnly (P : ε → Prop) (x : Except ε α) : Prop := ∀ e, x = .error e → P e

section

variable {P Q : ε → Prop}

theorem failsOnly_pure (a : α) : FailsOnly P (pure a : Except ε α) := fun _ h => nomatch h

theorem FailsOnly.imp {x : Except ε α} (h : FailsOnly P x) (hPQ : ∀ e, P e → Q e) :
    FailsOnly Q x :=
  fun e he => hPQ e (h e he)

theorem FailsOnly.map {x : Except ε α} {f : α → β} (h : FailsOnly P x) : FailsOnly P (x.map f) := by
  intro e he
  cases x with
  | error e' => exact h e (congrArg Except.error (Except.error.inj he))
  | ok a => cases he

theorem FailsOnly.bind {x : Except ε α} {f : α → Except ε β} (hx : FailsOnly P x)
    (hf : ∀ a, x = .ok a → FailsOnly P (f a)) : FailsOnly P (x >>= f) := by
  intro e he
  cases x with
  | error e' => exact hx e (congrArg Except.error (Except.error.inj he))
  | ok a => exact hf a rfl e he

theorem FailsOnly.tryCatch {x : Except ε α} {handler : ε → Except ε α} (hx : FailsOnly P x)
    (hhandler : ∀ e, P e → FailsOnly Q (handler e)) : FailsOnly Q (tryCatch x handler) := by
  intro e he
  cases x with
  | ok a => cases he
  | error e' => exact hhandler e' (hx e' rfl) e he

theorem FailsOnly.mapM {f : α → Except ε β} {as : List α} (h : ∀ a ∈ as, FailsOnly P (f a)) :
    FailsOnly P (as.mapM f) := by
  induction as with
  | nil => exact failsOnly_pure []
  | cons a as ih =>
    rw [List.forall_mem_cons] at h
    rw [List.mapM_cons]
    exact h.1.bind fun b _ => (ih h.2).bind fun bs _ => failsOnly_pure (b :: bs)

theorem FailsOnly.foldlM {step : β → α → Except ε β} {as : List α}
    (h : ∀ a ∈ as, ∀ b, FailsOnly P (step b a)) (b : β) : FailsOnly P (as.foldlM step b) := by
  induction as generalizing b with
  | nil => exact failsOnly_pure b
  | cons a as ih =>
    rw [List.forall_mem_cons] at h
    rw [List.foldlM_cons]
    exact (h.1 b).bind fun b' _ => ih h.2 b'

end

/-! ### With a state -/

section

variable {σ : Type}

theorem run_bind (x : ExceptT ε (StateM σ) α) (k : α → ExceptT ε (StateM σ) β) (s : σ) :
    (x >>= k).run s = match x.run s with
      | (.ok a, s₁) => (k a).run s₁
      | (.error e, s₁) => (.error e, s₁) := by
  show (match x.run s with | (r, s₁) => ExceptT.bindCont k r s₁) = _
  rcases x.run s with ⟨r, s₁⟩
  cases r <;> rfl

theorem run_tryCatch (x : ExceptT ε (StateM σ) α) (k : ε → ExceptT ε (StateM σ) α) (s : σ) :
    (tryCatch x k).run s = match x.run s with
      | (.ok a, s₁) => (.ok a, s₁)
      | (.error e, s₁) => (k e).run s₁ := by
  show (match x.run s with
    | (r, s₁) => (match r with
      | .ok a => (pure (.ok a) : StateM σ (Except ε α))
      | .error e => (k e).run) s₁) = _
  rcases x.run s with ⟨r, s₁⟩
  cases r <;> rfl

theorem run_bind_eq_ok_iff {x : ExceptT ε (StateM σ) α} {k : α → ExceptT ε (StateM σ) β} {b : β}
    {s s' : σ} : (x >>= k).run s = (.ok b, s') ↔
      ∃ a s₁, x.run s = (.ok a, s₁) ∧ (k a).run s₁ = (.ok b, s') := by
  rw [run_bind]
  rcases x.run s with ⟨e | a, s₁⟩
  · exact iff_of_false (fun h => nomatch (Prod.mk.inj h).1) fun ⟨_, _, h, _⟩ =>
      nomatch (Prod.mk.inj h).1
  · constructor
    · exact fun h => ⟨a, s₁, rfl, h⟩
    · rintro ⟨_, _, h, hk⟩
      cases h
      exact hk

theorem run_bind_eq_error_iff {x : ExceptT ε (StateM σ) α} {k : α → ExceptT ε (StateM σ) β} {e : ε}
    {s s' : σ} : (x >>= k).run s = (.error e, s') ↔ x.run s = (.error e, s') ∨
      ∃ a s₁, x.run s = (.ok a, s₁) ∧ (k a).run s₁ = (.error e, s') := by
  rw [run_bind]
  rcases x.run s with ⟨e' | a, s₁⟩
  · constructor
    · intro h
      cases h
      exact .inl rfl
    · rintro (h | ⟨_, _, h, -⟩)
      · cases h
        rfl
      · cases h
  · constructor
    · exact fun h => .inr ⟨a, s₁, rfl, h⟩
    · rintro (h | ⟨_, _, h, hk⟩)
      · cases h
      · cases h
        exact hk

theorem run_pure_eq_ok_iff {a b : α} {s s' : σ} :
    (pure a : ExceptT ε (StateM σ) α).run s = (.ok b, s') ↔ a = b ∧ s = s' := by
  constructor
  · intro h
    cases h
    exact ⟨rfl, rfl⟩
  · rintro ⟨rfl, rfl⟩
    rfl

end

end Grounding.Outcome

import Grounding.Proofs.Synthesis.Search

/-!
# The search along an orbit

The search for a free key goes through the states that moves lead to. `Search` is its loop, without
a bound on the turns. It ends nevertheless, if no move fails: the keys that it notes are apart from
each other and all taken, so they run out (`Underway.exists_search`). It ends with the first state
on the way that has a free key. When it comes back to a key instead, the keys go round in a circle,
and none of them is ever free (`StaysIn.of_repeat`).
-/

namespace Grounding.Synthesis

open Outcome Value

variable {σ : Type}

/-! ### Orbits -/

/-- The state that a number of moves lead to, one after another, if none of them fails. -/
def advance (step : σ → Except Fault σ) : ℕ → σ → Except Fault σ
  | 0, s => .ok s
  | n + 1, s => advance step n s >>= step

/-- The values that fewer moves than a number lead to are all among the given ones. -/
def StaysIn (step : Value → Except Fault Value) (taken : List Value) (x : Value) (n : ℕ) : Prop :=
  ∀ m < n, ∃ y, advance step m x = .ok y ∧ y ∈ taken

/-- A number of moves, and no smaller one, lead out of the given values. -/
structure LeadsOut (step : Value → Except Fault Value) (taken : List Value) (x : Value) (n : ℕ)
    (y : Value) : Prop where
  staysIn : StaysIn step taken x n
  reaches : advance step n x = .ok y
  notMem : y ∉ taken

section

variable {step : σ → Except Fault σ} {s t : σ}

theorem advance_succ_eq_ok_iff {n : ℕ} :
    advance step (n + 1) s = .ok t ↔ ∃ u, advance step n s = .ok u ∧ step u = .ok t :=
  bind_eq_ok_iff

theorem advance_add {n : ℕ} (h : advance step n s = .ok t) (m : ℕ) :
    advance step (n + m) s = advance step m t := by
  induction m with
  | zero => exact h
  | succ m ih => rw [← Nat.add_assoc, advance, advance, ih]

theorem advance_keeps {P : σ → Prop} (hkeeps : ∀ s t, P s → step s = .ok t → P t) {n : ℕ}
    (hs : P s) (h : advance step n s = .ok t) : P t := by
  induction n generalizing t with
  | zero => exact Except.ok.inj h ▸ hs
  | succ n ih =>
    obtain ⟨u, hu, ht⟩ := advance_succ_eq_ok_iff.1 h
    exact hkeeps u t (ih hu) ht

theorem advance_key {key : σ → Value} {keyStep : Value → Except Fault Value}
    (hkey : ∀ s t, step s = .ok t → keyStep (key s) = .ok (key t)) {n : ℕ}
    (h : advance step n s = .ok t) : advance keyStep n (key s) = .ok (key t) := by
  induction n generalizing t with
  | zero => exact Except.ok.inj h ▸ rfl
  | succ n ih =>
    obtain ⟨u, hu, ht⟩ := advance_succ_eq_ok_iff.1 h
    exact advance_succ_eq_ok_iff.2 ⟨key u, ih hu, hkey u t ht⟩

end

theorem moveEntry_eq_ok_iff {moveKey moveItem : Value → Except Fault Value}
    {e f : Value × Value} :
    moveEntry moveKey moveItem e = .ok f ↔ moveKey e.1 = .ok f.1 ∧ moveItem e.2 = .ok f.2 := by
  simp only [moveEntry, bind_eq_ok_iff, pure_eq_ok_iff]
  constructor
  · rintro ⟨k, hk, x, hx, rfl⟩
    exact ⟨hk, hx⟩
  · rintro ⟨hk, hx⟩
    exact ⟨f.1, hk, f.2, hx, rfl⟩

theorem advance_moveEntry_eq_ok_iff {moveKey moveItem : Value → Except Fault Value}
    {e f : Value × Value} {n : ℕ} :
    advance (moveEntry moveKey moveItem) n e = .ok f ↔
      advance moveKey n e.1 = .ok f.1 ∧ advance moveItem n e.2 = .ok f.2 := by
  induction n generalizing f with
  | zero => simp only [advance, Except.ok.injEq, Prod.ext_iff]
  | succ n ih =>
    simp only [advance_succ_eq_ok_iff, ih, moveEntry_eq_ok_iff]
    constructor
    · rintro ⟨g, ⟨hk, hx⟩, hk', hx'⟩
      exact ⟨⟨g.1, hk, hk'⟩, g.2, hx, hx'⟩
    · rintro ⟨⟨k, hk, hk'⟩, x, hx, hx'⟩
      exact ⟨(k, x), ⟨hk, hx⟩, hk', hx'⟩

section

variable {step : Value → Except Fault Value} {taken : List Value} {x y : Value} {i n : ℕ}

theorem staysIn_zero : StaysIn step taken x 0 := fun _ hm => absurd hm (Nat.not_lt_zero _)

theorem StaysIn.succ (h : StaysIn step taken x n) (hy : advance step n x = .ok y)
    (hmem : y ∈ taken) : StaysIn step taken x (n + 1) := by
  intro m hm
  rcases Nat.lt_succ_iff_lt_or_eq.1 hm with hm | rfl
  · exact h m hm
  · exact ⟨y, hy, hmem⟩

theorem StaysIn.of_repeat (h : StaysIn step taken x n) (hi : i < n)
    (hfirst : advance step i x = .ok y) (hagain : advance step n x = .ok y) (m : ℕ) :
    StaysIn step taken x m := by
  have hall : ∀ m, ∃ z, advance step m x = .ok z ∧ z ∈ taken := by
    intro m
    induction m using Nat.strong_induction_on with
    | h m ih =>
      rcases Nat.lt_or_ge m n with hm | hm
      · exact h m hm
      · -- the turn from the first visit to the second one is left out
        obtain ⟨j, rfl⟩ := Nat.exists_eq_add_of_le hm
        rw [advance_add hagain, ← advance_add hfirst]
        exact ih (i + j) (by omega)
  exact fun m _ => hall m

end

/-! ### The loop -/

section

variable (key : σ → Value) (step : σ → Except Fault σ) (taken : List Value)

/-- The search for a free key: each key that it comes to is looked up among the taken ones. At a
free key it ends with the state; at a key that it has met it ends with nothing; and else it notes
the key and moves on. The second list has the keys in the order in which they are looked up. -/
inductive Search : List Value → σ → List Value → Option σ → Prop
  | free {seen : List Value} {s : σ} : (key s).isAmong taken = false →
      Search seen s [key s] (some s)
  | met {seen : List Value} {s : σ} : (key s).isAmong taken = true →
      (key s).isAmong seen = true → Search seen s [key s] none
  | onward {seen tests : List Value} {s t : σ} {found : Option σ} :
      (key s).isAmong taken = true → (key s).isAmong seen = false → step s = .ok t →
        Search (key s :: seen) t tests found → Search seen s (key s :: tests) found

end

variable {key : σ → Value} {step : σ → Except Fault σ} {taken seen tests : List Value}
  {d : Descriptor} {P : σ → Prop} {s t : σ} {found : Option σ}

theorem escape_succ_of_step {moves : ℕ} (ht : step s = .ok t)
    (hhash : (key t).isHashable = true) :
    escape key step taken (moves + 1) seen s =
      if !(key t).isAmong taken then .ok (some t)
      else if (key t).isAmong seen then .ok none
      else escape key step taken moves (key t :: seen) t := by
  have hok := (requireHashable_eq_ok_iff (u := ())).2 hhash
  simp only [escape, ht, checked_eq, bind, Except.bind, hok]
  rfl

/-- A search within a number of moves comes to what the loop comes to, if the loop looks up no more
keys than that after the first move. -/
theorem escape_of_search {moves : ℕ} (h : KeepsKeys P key step d) (hs : P s)
    (ht : step s = .ok t) (hsearch : Search key step taken seen t tests found)
    (hmoves : tests.length ≤ moves) : escape key step taken moves seen s = .ok found := by
  have hhash : ∀ t, P t → (key t).isHashable = true := fun t ht =>
    (isHashable_of_inhabits (h.inhabits t ht)).trans h.hashable
  induction hsearch generalizing s moves with
  | free hfree =>
    obtain ⟨moves, rfl⟩ := Nat.exists_eq_add_of_le' (Nat.one_le_of_lt hmoves)
    rw [escape_succ_of_step ht (hhash _ (h.keeps _ _ hs ht)), hfree]
    rfl
  | met htaken hmet =>
    obtain ⟨moves, rfl⟩ := Nat.exists_eq_add_of_le' (Nat.one_le_of_lt hmoves)
    rw [escape_succ_of_step ht (hhash _ (h.keeps _ _ hs ht)), htaken, hmet]
    rfl
  | onward htaken hnew hnext _ ih =>
    obtain ⟨moves, rfl⟩ := Nat.exists_eq_add_of_le' (Nat.one_le_of_lt hmoves)
    rw [escape_succ_of_step ht (hhash _ (h.keeps _ _ hs ht)), htaken, hnew]
    exact ih (h.keeps _ _ hs ht) hnext (Nat.le_of_succ_le_succ hmoves)

theorem escape_of_search_first (h : KeepsKeys P key step d) (hs : P s)
    (hfirst : (key s).isAmong taken = true) (hsearch : Search key step taken [] s tests found)
    (htests : tests.length ≤ taken.length + 1) :
    escape key step taken taken.length [key s] s = .ok found := by
  cases hsearch with
  | free hfree =>
    rw [hfirst] at hfree
    cases hfree
  | met _ hmet => cases hmet
  | onward _ _ ht hrest =>
    exact escape_of_search h hs ht hrest (Nat.le_of_succ_le_succ htests)

/-! ### The end of the loop -/

section

variable (P : σ → Prop) (key : σ → Value) (step : σ → Except Fault σ)
  (keyStep : Value → Except Fault Value) (taken : List Value) (d : Descriptor) (s₀ : σ)

/-- What a search from a state has to end with: the first state on the way whose key is free, or
nothing if the keys on the way are never free. -/
inductive Finds : Option σ → Prop
  | out {n : ℕ} {t : σ} : LeadsOut keyStep taken (key s₀) n (key t) →
      advance step n s₀ = .ok t → Finds (some t)
  | trapped : (∀ n, StaysIn keyStep taken (key s₀) n) → Finds none

/-- A search among keys of one type without floats, where a move takes a key to the next one
whatever else belongs to the state. -/
structure KeySearch : Prop where
  keepsKeys : KeepsKeys P key step d
  isFloatFree : d.isFloatFree = true
  taken : ∀ y ∈ taken, y.Inhabits d
  keyStep : ∀ s t, step s = .ok t → keyStep (key s) = .ok (key t)
  start : P s₀

/-- What holds after a number of turns of the loop: it has come to where so many moves lead, and it
has noted keys that were on the way, all of them taken and apart. -/
structure Underway (n : ℕ) (seen : List Value) (s : σ) : Prop where
  reaches : advance step n s₀ = .ok s
  staysIn : StaysIn keyStep taken (key s₀) n
  met : Met d taken seen
  passed : ∀ y ∈ seen, ∃ i < n, advance keyStep i (key s₀) = .ok y

end

variable {keyStep : Value → Except Fault Value} {s₀ : σ} {n : ℕ}

theorem underway_start : Underway key step keyStep taken d s₀ 0 [] s₀ :=
  ⟨rfl, staysIn_zero, met_nil, List.forall_mem_nil _⟩

namespace Underway

variable (hu : Underway key step keyStep taken d s₀ n seen s)
  (h : KeySearch P key step keyStep taken d s₀)

include hu h

theorem inhabits : (key s).Inhabits d :=
  h.keepsKeys.inhabits s (advance_keeps h.keepsKeys.keeps h.start hu.reaches)

theorem isHashable : (key s).isHashable = true :=
  (isHashable_of_inhabits (hu.inhabits h)).trans h.keepsKeys.hashable

theorem reaches_key : advance keyStep n (key s₀) = .ok (key s) :=
  advance_key h.keyStep hu.reaches

theorem isAmong_taken_iff : (key s).isAmong taken = true ↔ key s ∈ taken :=
  isAmong_iff_mem (hu.inhabits h) h.taken h.isFloatFree (hu.isHashable h)

theorem isAmong_seen_iff : (key s).isAmong seen = true ↔ key s ∈ seen :=
  isAmong_iff_mem (hu.inhabits h) hu.met.inhabits h.isFloatFree (hu.isHashable h)

theorem onward (hin : (key s).isAmong taken = true) (hnew : (key s).isAmong seen = false)
    (hstep : step s = .ok t) :
    Underway key step keyStep taken d s₀ (n + 1) (key s :: seen) t where
  reaches := advance_succ_eq_ok_iff.2 ⟨s, hu.reaches, hstep⟩
  staysIn := hu.staysIn.succ (hu.reaches_key h) ((hu.isAmong_taken_iff h).1 hin)
  met := hu.met.cons (hu.inhabits h) hin hnew
  passed := by
    rw [List.forall_mem_cons]
    refine ⟨⟨n, n.lt_succ_self, hu.reaches_key h⟩, fun y hy => ?_⟩
    obtain ⟨i, hi, hy⟩ := hu.passed y hy
    exact ⟨i, Nat.lt_succ_of_lt hi, hy⟩

theorem finds_some (hfree : (key s).isAmong taken = false) :
    Finds key step keyStep taken s₀ (some s) := by
  have hnot : key s ∉ taken := by
    rw [← hu.isAmong_taken_iff h, hfree]
    exact Bool.false_ne_true
  exact .out ⟨hu.staysIn, hu.reaches_key h, hnot⟩ hu.reaches

theorem finds_none (hagain : (key s).isAmong seen = true) :
    Finds key step keyStep taken s₀ none := by
  obtain ⟨i, hi, hfirst⟩ := hu.passed _ ((hu.isAmong_seen_iff h).1 hagain)
  exact .trapped (hu.staysIn.of_repeat hi hfirst (hu.reaches_key h))

/-- The loop ends: the keys that it notes are apart and taken, so they run out. -/
theorem exists_search {moves : ℕ} (hmoves : taken.length < moves + seen.length)
    (hgoes : ∀ n, StaysIn keyStep taken (key s₀) n → ∃ t, advance step n s₀ = .ok t) :
    ∃ tests found, Search key step taken seen s tests found ∧
      tests.length + seen.length ≤ taken.length + 1 ∧ Finds key step keyStep taken s₀ found := by
  induction moves generalizing n seen s with
  | zero =>
    -- more keys would be noted than are taken
    have hle := hu.met.length_le h.keepsKeys.hashable h.taken
    omega
  | succ moves ih =>
    have hle := hu.met.length_le h.keepsKeys.hashable h.taken
    have hlast : [key s].length + seen.length ≤ taken.length + 1 := by
      rw [List.length_singleton]
      omega
    cases hin : (key s).isAmong taken with
    | false => exact ⟨_, _, .free hin, hlast, hu.finds_some h hin⟩
    | true =>
      cases hnew : (key s).isAmong seen with
      | true => exact ⟨_, _, .met hin hnew, hlast, hu.finds_none h hnew⟩
      | false =>
        -- all keys up to this one are taken, so there is a move from here
        obtain ⟨t, ht⟩ := hgoes (n + 1)
          (hu.staysIn.succ (hu.reaches_key h) ((hu.isAmong_taken_iff h).1 hin))
        obtain ⟨s', hs', hstep⟩ := advance_succ_eq_ok_iff.1 ht
        obtain rfl : s = s' := Except.ok.inj (hu.reaches.symm.trans hs')
        obtain ⟨tests, found, hsearch, htests, hfound⟩ :=
          ih (hu.onward h hin hnew hstep) (by rw [List.length_cons]; omega)
        refine ⟨key s :: tests, found, .onward hin hnew hstep hsearch, ?_, hfound⟩
        rw [List.length_cons] at htests ⊢
        omega

end Underway

theorem KeySearch.exists_escape (h : KeySearch P key step keyStep taken d s₀)
    (hfirst : key s₀ ∈ taken)
    (hgoes : ∀ n, StaysIn keyStep taken (key s₀) n → ∃ t, advance step n s₀ = .ok t) :
    ∃ tests found, Search key step taken [] s₀ tests found ∧ tests.length ≤ taken.length + 1 ∧
      Finds key step keyStep taken s₀ found ∧
        escape key step taken taken.length [key s₀] s₀ = .ok found := by
  obtain ⟨tests, found, hsearch, htests, hfound⟩ :=
    underway_start.exists_search h (Nat.lt_succ_self _) hgoes
  have htaken := (underway_start.isAmong_taken_iff h).2 hfirst
  exact ⟨tests, found, hsearch, htests, hfound,
    escape_of_search_first h.keepsKeys h.start htaken hsearch htests⟩

end Grounding.Synthesis

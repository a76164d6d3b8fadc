import Grounding.Proofs.Synthesis.Probing
import Grounding.Proofs.Value.Equivalence

/-!
# The search for a free key

A set and a map grow by moving on from their first key until a key comes up that they do not have.
The search is given as many moves as they have keys. That is always enough (`escape_eq_error_iff`):
the keys on the way are apart and taken, so there cannot be more of them. What ends the search with
a fault is a move from a key that it comes to, and nothing else.
-/

namespace Grounding.Synthesis

open Outcome Value

section

variable {σ : Type} (key : σ → Value) (step : σ → Except Fault σ) (taken : List Value)

/-- Moves lead from one state to another, and each key on the way is taken and not met before. -/
inductive Leads : List Value → σ → σ → Prop
  | here {seen : List Value} {s : σ} : Leads seen s s
  | onward {seen : List Value} {s t u : σ} : step s = .ok t → (key t).isAmong taken = true →
      (key t).isAmong seen = false → Leads (key t :: seen) t u → Leads seen s u

end

variable {σ : Type} {key : σ → Value} {step : σ → Except Fault σ} {taken seen : List Value}
  {d : Descriptor} {s : σ} {f : Fault}

theorem exists_leads_iff :
    (∃ u, Leads key step taken seen s u ∧ step u = .error f) ↔
      step s = .error f ∨ ∃ t, step s = .ok t ∧ (key t).isAmong taken = true ∧
        (key t).isAmong seen = false ∧
          ∃ u, Leads key step taken (key t :: seen) t u ∧ step u = .error f := by
  constructor
  · rintro ⟨u, _ | ⟨ht, htaken, hseen, hu⟩, hf⟩
    · exact .inl hf
    · exact .inr ⟨_, ht, htaken, hseen, u, hu, hf⟩
  · rintro (hf | ⟨t, ht, htaken, hseen, u, hu, hf⟩)
    · exact ⟨s, .here, hf⟩
    · exact ⟨u, .onward ht htaken hseen hu, hf⟩

/-- Keys of one type that have been met: no two are equal, and each equals one of the others. -/
structure Met (d : Descriptor) (others visited : List Value) : Prop where
  inhabits : ∀ y ∈ visited, y.Inhabits d
  apart : visited.Pairwise fun x y => same x y = false
  among : ∀ y ∈ visited, y.isAmong others = true

theorem met_nil {others : List Value} : Met d others [] :=
  ⟨List.forall_mem_nil _, .nil, List.forall_mem_nil _⟩

theorem Met.cons {others visited : List Value} {x : Value} (h : Met d others visited)
    (hx : x.Inhabits d) (hmem : x.isAmong others = true) (hnew : x.isAmong visited = false) :
    Met d others (x :: visited) := by
  refine ⟨List.forall_mem_cons.2 ⟨hx, h.inhabits⟩, List.pairwise_cons.2 ⟨?_, h.apart⟩,
    List.forall_mem_cons.2 ⟨hmem, h.among⟩⟩
  intro y hy
  rw [isAmong, List.any_eq_false] at hnew
  exact Bool.eq_false_iff.2 (hnew y hy)

theorem Met.cons_of_new {others visited : List Value} {x y : Value} (h : Met d others visited)
    (hy : y.Inhabits d) (hmem : y.isAmong (x :: others) = true)
    (hnew : y.isAmong (visited ++ [x]) = false) : Met d others (y :: visited) := by
  simp only [isAmong, List.any_cons, List.any_append, List.any_nil, Bool.or_false,
    Bool.or_eq_true, Bool.or_eq_false_iff] at hmem hnew
  refine h.cons hy (hmem.resolve_left ?_) hnew.1
  rw [hnew.2]
  exact Bool.false_ne_true

theorem Met.length_le {others visited : List Value} (h : Met d others visited)
    (hhash : d.isHashable = true) (hothers : ∀ y ∈ others, y.Inhabits d) :
    visited.length ≤ others.length :=
  length_le_of_isAmong hhash h.inhabits hothers h.apart h.among

/-- Whatever moves reach has a key of one type, and such keys may stand in a set. -/
structure KeepsKeys (P : σ → Prop) (key : σ → Value) (step : σ → Except Fault σ)
    (d : Descriptor) : Prop where
  hashable : d.isHashable = true
  inhabits : ∀ s, P s → (key s).Inhabits d
  keeps : ∀ s t, P s → step s = .ok t → P t

theorem Leads.keeps {P : σ → Prop} {t : σ} (hleads : Leads key step taken seen s t)
    (h : KeepsKeys P key step d) (hs : P s) : P t := by
  induction hleads with
  | here => exact hs
  | onward ht _ _ _ ih => exact ih (h.keeps _ _ hs ht)

theorem escape_succ_eq_error_iff {moves : Nat} :
    escape key step taken (moves + 1) seen s = .error f ↔
      step s = .error f ∨ ∃ t, step s = .ok t ∧ ((key t).requireHashable = .error f ∨
        (key t).isHashable = true ∧ (key t).isAmong taken = true ∧ (key t).isAmong seen = false ∧
          escape key step taken moves (key t :: seen) t = .error f) := by
  simp only [escape, bind_eq_error_iff, checked_eq, requireHashable_eq_ok_iff, exists_const]
  refine or_congr_right (exists_congr fun t => and_congr_right fun _ => or_congr_right <|
    and_congr_right fun _ => ?_)
  cases (key t).isAmong taken with
  | false => simp [pure, Except.pure]
  | true =>
    cases (key t).isAmong seen with
    | false => simp
    | true => simp [pure, Except.pure]

/-- A search ends with a fault if and only if it comes to a key from which a move ends so. It is not
cut off before that, if there are as many moves as taken keys. -/
theorem escape_eq_error_iff {P : σ → Prop} (h : KeepsKeys P key step d) {x : Value}
    {others visited : List Value} {moves : Nat} (hs : P s) (hothers : ∀ y ∈ others, y.Inhabits d)
    (hmet : Met d others visited) (hmoves : others.length < moves + visited.length) :
    escape key step (x :: others) moves (visited ++ [x]) s = .error f ↔
      ∃ t, Leads key step (x :: others) (visited ++ [x]) s t ∧ step t = .error f := by
  induction moves generalizing visited s with
  | zero =>
    have hle := hmet.length_le h.hashable hothers
    omega
  | succ moves ih =>
    rw [escape_succ_eq_error_iff, exists_leads_iff]
    refine or_congr_right (exists_congr fun t => and_congr_right fun ht => ?_)
    have hPt := h.keeps s t hs ht
    have hkey := h.inhabits t hPt
    have hhash : (key t).isHashable = true := (isHashable_of_inhabits hkey).trans h.hashable
    have hrequire : (key t).requireHashable ≠ .error f := by
      rw [requireHashable_eq_ok_iff (u := ()) |>.2 hhash]
      exact fun hok => nomatch hok
    rw [or_iff_right hrequire, and_iff_right hhash]
    refine and_congr_right fun hmem => and_congr_right fun hnew => ?_
    exact ih hPt (hmet.cons_of_new hkey hmem hnew) (by rw [List.length_cons]; omega)

end Grounding.Synthesis

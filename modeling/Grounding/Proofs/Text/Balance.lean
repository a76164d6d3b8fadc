import Grounding.Proofs.Text.Nesting

/-!
# The grammar of balanced texts

A balanced text is empty, or it begins with a character that is no bracket or with a group, which
holds a balanced text, and goes on balanced. The check of brackets reads a text once, with a stack,
and accepts exactly these texts (`balanced_eq_true_iff`).

That a derived text is accepted goes by its derivation. Conversely the check is followed above
groups that are open already: what it accepts there closes them one after the other, with balanced
texts in front of each closing bracket and after the last (`Closes`).
-/

namespace Grounding.Text

variable {s t : List Char} {stack : List Bracket}

theorem Bracket.eq_opening {c : Char} {b : Bracket} (h : ofOpening? c = some b) :
    c = b.opening := by
  have hb := List.find?_some h
  exact (beq_iff_eq.1 hb).symm

theorem Bracket.eq_closing {c : Char} {b : Bracket} (h : ofClosing? c = some b) :
    c = b.closing := by
  have hb := List.find?_some h
  exact (beq_iff_eq.1 hb).symm

theorem isBracket_of_none {c : Char} (ho : Bracket.ofOpening? c = none)
    (hc : Bracket.ofClosing? c = none) : isBracket c = false := by
  rw [isBracket, isOpening, isClosing, ho, hc]
  rfl

/-! ### Derivations -/

theorem Balanced.append (hs : Balanced s) (ht : Balanced t) : Balanced (s ++ t) := by
  induction hs with
  | nil => exact ht
  | plain hc _ ih => exact .plain hc ih
  | group b hinner _ _ ih =>
    rw [List.append_assoc, List.cons_append]
    exact .group b hinner ih

theorem Balanced.enclosed (b : Bracket) (hs : Balanced s) :
    Balanced (b.opening :: s ++ [b.closing]) :=
  .group b hs .nil

theorem Balanced.accepted (hs : Balanced s) : balanced s = true := by
  induction hs with
  | nil => rfl
  | @plain c s hc _ ih =>
    have hplain : balanced [c] = true :=
      balanced_plain fun x hx => by rw [List.mem_singleton.1 hx, hc]
    exact balanced_append hplain ih
  | @group s t b _ _ ihs iht =>
    have hgroup := balanced_append (balanced_enclosed b ihs) iht
    rwa [List.append_assoc, List.singleton_append] at hgroup

/-! ### Open groups -/

/-- A text closes the groups of a stack, innermost first: a balanced text stands in front of each
closing bracket, and one after the last. -/
def Closes : List Bracket → List Char → Prop
  | [], s => Balanced s
  | b :: below, s =>
    ∃ inner rest, s = inner ++ b.closing :: rest ∧ Balanced inner ∧ Closes below rest

theorem Closes.prepend (hs : Balanced s) (ht : Closes stack t) : Closes stack (s ++ t) := by
  cases stack with
  | nil => exact hs.append ht
  | cons b below =>
    obtain ⟨inner, rest, rfl, hinner, hrest⟩ := ht
    exact ⟨s ++ inner, rest, (List.append_assoc ..).symm, hs.append hinner, hrest⟩

theorem closes_of_balancedFrom (h : balancedFrom stack s = true) : Closes stack s := by
  fun_induction balancedFrom stack s with
  | case1 stack =>
    obtain rfl := List.isEmpty_iff.1 h
    exact .nil
  | case2 stack c rest b hb ih =>
    obtain rfl := Bracket.eq_opening hb
    obtain ⟨inner, after, rfl, hinner, hafter⟩ := ih h
    have hgroup := hafter.prepend (hinner.enclosed b)
    rwa [List.append_assoc, List.singleton_append] at hgroup
  | case3 stack c rest ho hc ih =>
    exact (ih h).prepend (.plain (isBracket_of_none ho hc) .nil)
  | case4 => cases h
  | case5 c rest ho b top below hb ih =>
    obtain ⟨htop, hrest⟩ := Bool.and_eq_true_iff.1 h
    obtain rfl := beq_iff_eq.1 htop
    obtain rfl := Bracket.eq_closing hb
    exact ⟨[], rest, rfl, .nil, ih hrest⟩

/-- The check accepts the balanced texts and no others. -/
theorem balanced_eq_true_iff : balanced s = true ↔ Balanced s :=
  ⟨closes_of_balancedFrom, Balanced.accepted⟩

end Grounding.Text

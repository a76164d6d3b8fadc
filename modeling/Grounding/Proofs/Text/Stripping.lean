import Grounding.Text.Blank
import Mathlib.Data.List.DropRight

/-!
# Stripping

A text is its stripped form between blanks. The stripped form neither begins nor ends with a blank,
and only the empty text has none of its own.
-/

namespace Grounding.Text

theorem stripRight_eq (s : List Char) : stripRight s = s.rdropWhile isBlank := rfl

theorem stripRight_append_blank (s : List Char) {w : List Char} (hw : ∀ x ∈ w, isBlank x = true) :
    stripRight (s ++ w) = stripRight s := by
  have hback : ∀ x ∈ w.reverse, isBlank x = true := fun x hx => hw x (List.mem_reverse.1 hx)
  rw [stripRight, List.reverse_append, List.dropWhile_append_of_pos hback, ← stripRight]

theorem strip_blank_append {w : List Char} (hw : ∀ x ∈ w, isBlank x = true) (s : List Char) :
    strip (w ++ s) = strip s := by
  rw [strip, List.dropWhile_append_of_pos hw, ← strip]

theorem strip_append_blank (s : List Char) {w : List Char} (hw : ∀ x ∈ w, isBlank x = true) :
    strip (s ++ w) = strip s := by
  rw [strip, List.dropWhile_append]
  split
  · next hs =>
    rw [List.isEmpty_iff] at hs
    rw [strip, hs, List.dropWhile_eq_nil_iff.2 hw]
  · rw [stripRight_append_blank _ hw, ← strip]

theorem exists_blanks (s : List Char) : ∃ l r : List Char, (∀ x ∈ l, isBlank x = true) ∧
    (∀ x ∈ r, isBlank x = true) ∧ s = l ++ strip s ++ r := by
  refine ⟨s.takeWhile isBlank, (s.dropWhile isBlank).rtakeWhile isBlank,
    fun x hx => List.mem_takeWhile_imp hx, fun x hx => List.mem_rtakeWhile_imp hx, ?_⟩
  rw [List.append_assoc, strip, stripRight_eq, List.rdropWhile_append_rtakeWhile,
    List.takeWhile_append_dropWhile]

theorem strip_strip (s : List Char) : strip (strip s) = strip s := by
  obtain ⟨l, r, hl, hr, hs⟩ := exists_blanks s
  conv_rhs => rw [hs, strip_append_blank _ hr, strip_blank_append hl]

theorem strip_eq_nil_iff {s : List Char} : strip s = [] ↔ ∀ x ∈ s, isBlank x = true := by
  rw [strip, stripRight_eq, List.rdropWhile_eq_nil_iff]
  constructor
  · intro h x hx
    rw [← List.takeWhile_append_dropWhile (p := isBlank) (l := s), List.mem_append] at hx
    exact hx.elim (fun hx => List.mem_takeWhile_imp hx) (h x)
  · intro h x hx
    exact h x (List.dropWhile_subset isBlank hx)

theorem strip_eq_self {c d : Char} {s t : List Char} (h : c :: s = t ++ [d])
    (hc : isBlank c = false) (hd : isBlank d = false) : strip (c :: s) = c :: s := by
  rw [strip, List.dropWhile_cons_of_neg (by rw [hc]; exact Bool.false_ne_true), stripRight_eq, h,
    List.rdropWhile_concat_neg isBlank t d (by rw [hd]; exact Bool.false_ne_true)]

theorem strip_eq_self_of_no_blank {s : List Char} (hs : ∀ x ∈ s, isBlank x = false) :
    strip s = s := by
  obtain ⟨l, r, hl, hr, h⟩ := exists_blanks s
  have hnone : ∀ w : List Char, (∀ x ∈ w, isBlank x = true) → (∀ x ∈ w, x ∈ s) → w = [] := by
    intro w hw hsub
    rw [List.eq_nil_iff_forall_not_mem]
    intro x hx
    have := hs x (hsub x hx)
    rw [hw x hx] at this
    cases this
  have hl0 := hnone l hl fun x hx => by rw [h]; simp [hx]
  have hr0 := hnone r hr fun x hx => by rw [h]; simp [hx]
  rw [hl0, hr0, List.nil_append, List.append_nil] at h
  exact h.symm

theorem head_strip_not_blank {s : List Char} {c : Char} {rest : List Char}
    (h : strip s = c :: rest) : isBlank c = false := by
  by_contra hc
  have hfix := strip_strip s
  rw [h, strip, List.dropWhile_cons_of_pos (by simpa using hc)] at hfix
  have hlength := (length_stripRight_le (rest.dropWhile isBlank)).trans
    (List.dropWhile_sublist isBlank).length_le
  rw [hfix, List.length_cons] at hlength
  omega

end Grounding.Text

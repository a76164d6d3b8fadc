import Grounding.Proofs.Text.Splitting

/-!
# Cutting undoes joining

Every part of a text but the last ends at depth zero, so where the brackets of a text match, those
of its parts do. With that, cutting a text and joining balanced parts are inverse to each other
(`splitTopLevel_undoes_join`).
-/

namespace Grounding.Text

variable {sep : List Char}

/-- A balanced text is balanced on both sides of a place at depth zero. -/
theorem balanced_of_append {s t : List Char} (h : balanced (s ++ t) = true)
    (hdepth : depthAfter 0 s = 0) : balanced s = true ∧ balanced t = true := by
  rw [balanced_iff, openAfter_append, Option.bind_eq_some_iff] at h
  obtain ⟨inner, hs, ht⟩ := h
  -- the stack at that place is as high as the place is deep
  have hheight : depthAfter 0 s = inner.length := depthAfter_of_openAfter hs
  have hinner : inner = [] := by
    rw [← List.length_eq_zero_iff]
    omega
  subst hinner
  exact ⟨balanced_iff.2 hs, balanced_iff.2 ht⟩

theorem balanced_of_mem_splitTopLevel (hne : sep ≠ []) (hplain : ∀ c ∈ sep, isBracket c = false)
    {s p : List Char} (hs : balanced s = true) (hp : p ∈ splitTopLevel sep s) :
    balanced p = true := by
  induction s using splitTopLevel_induction hne hplain with
  | whole s _ =>
    rw [List.mem_singleton.1 hp]
    exact hs
  | cut q rest parts _ hdepth ih =>
    rw [List.append_assoc] at hs
    obtain ⟨hq, hafter⟩ := balanced_of_append hs hdepth
    obtain ⟨-, hrest⟩ := balanced_of_append hafter (depthAfter_plain hplain 0)
    rcases List.mem_cons.1 hp with rfl | hp
    · exact hq
    · exact ih hrest hp

/-- The parts of a text join to it, hold the separator nowhere at depth zero, and are balanced if the
text is. Conversely, balanced parts that hold the separator nowhere at depth zero come back from the
text that they join to, if no proper beginning of the separator is also an end of it. -/
theorem splitTopLevel_undoes_join (hne : sep ≠ []) (hplain : ∀ c ∈ sep, isBracket c = false) :
    (∀ s, sep.intercalate (splitTopLevel sep s) = s ∧
      (∀ p ∈ splitTopLevel sep s, Undivided sep 0 p) ∧
      (balanced s = true → ∀ p ∈ splitTopLevel sep s, balanced p = true)) ∧
    ((∀ u, u ≠ [] → u ≠ sep → u <+: sep → ¬ u <:+ sep) →
      ∀ parts : List (List Char), parts ≠ [] →
        (∀ p ∈ parts, balanced p = true ∧ Undivided sep 0 p) →
          splitTopLevel sep (sep.intercalate parts) = parts) := by
  constructor
  · intro s
    refine ⟨intercalate_splitTopLevel hne hplain s, ?_, ?_⟩
    · intro p hp
      exact undivided_of_mem_splitTopLevel hne hplain hp
    · intro hs p hp
      exact balanced_of_mem_splitTopLevel hne hplain hs hp
  · intro hborder parts hparts hp
    have hsep : IsSeparator sep := by
      refine ⟨hne, hplain, ?_⟩
      intro u hu hprefix hsuffix
      by_cases hwhole : u = sep
      · exact hwhole
      · exact absurd hsuffix (hborder u hu hwhole hprefix)
    apply splitTopLevel_join hsep hparts
    · intro p hmem
      exact (hp p hmem).2
    · intro p hmem
      exact depthAfter_balanced (hp p hmem).1

/-- A list of two members, the first of which is a list itself. -/
theorem splitTopLevel_undoes_join_nested :
    let sep := [',', ' ']
    let s := ['[', 'a', ',', ' ', 'b', ']', ',', ' ', 'c']
    let parts := [['[', 'a', ',', ' ', 'b', ']'], ['c']]
    sep ≠ [] ∧ (∀ c ∈ sep, isBracket c = false) ∧ balanced s = true ∧
      (∀ u, u ≠ [] → u ≠ sep → u <+: sep → ¬ u <:+ sep) ∧ splitTopLevel sep s = parts ∧
      sep.intercalate parts = s ∧ (∀ p ∈ parts, balanced p = true ∧ Undivided sep 0 p) ∧
      splitTopLevel sep (sep.intercalate parts) = parts := by
  intro sep s parts
  have hne : sep ≠ [] := List.cons_ne_nil _ _
  have hplain : ∀ c ∈ sep, isBracket c = false :=
    List.forall_mem_cons.2 ⟨rfl, List.forall_mem_singleton.2 rfl⟩
  have hs : balanced s = true := by decide
  have hborder : ∀ u, u ≠ [] → u ≠ sep → u <+: sep → ¬ u <:+ sep := by
    intro u hu hwhole hprefix hsuffix
    rcases List.suffix_cons_iff.1 hsuffix with h | hblank
    · exact hwhole h
    · rcases List.suffix_cons_iff.1 hblank with rfl | hnil
      · exact absurd (List.cons_prefix_cons.1 hprefix).1 (by decide)
      · exact hu (List.suffix_nil.1 hnil)
  have hsplit : splitTopLevel sep s = parts := by decide
  obtain ⟨hcut, hjoin⟩ := splitTopLevel_undoes_join hne hplain
  obtain ⟨hback, hnone, hbalanced⟩ := hcut s
  rw [hsplit] at hback hnone hbalanced
  have hparts : ∀ p ∈ parts, balanced p = true ∧ Undivided sep 0 p := by
    intro p hp
    exact ⟨hbalanced hs p hp, hnone p hp⟩
  exact ⟨hne, hplain, hs, hborder, hsplit, hback, hparts,
    hjoin hborder parts (List.cons_ne_nil _ _) hparts⟩

end Grounding.Text

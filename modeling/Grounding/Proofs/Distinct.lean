import Mathlib.Data.List.Basic
import Mathlib.Data.List.Induction

/-!
# Members without repetition

`List.eraseDups` keeps each member of a list where it occurs first.
-/

namespace Grounding

variable {α : Type} [BEq α] [LawfulBEq α]

/-- The first list has the members of the second, each of them once and in the order in which they
first occur there. -/
structure FirstOccurrences (firsts as : List α) : Prop where
  nodup : firsts.Nodup
  mem_iff : ∀ a, a ∈ firsts ↔ a ∈ as
  ordered : firsts.Pairwise fun a b => as.idxOf a < as.idxOf b

theorem eraseDups_append_singleton (as : List α) (a : α) :
    (as ++ [a]).eraseDups = if a ∈ as then as.eraseDups else as.eraseDups ++ [a] := by
  have hremove : [a].removeAll as = if a ∈ as then [] else [a] := by
    by_cases hmem : a ∈ as <;> simp [List.removeAll, hmem]
  rw [List.eraseDups_append, hremove]
  split
  · exact List.append_nil _
  · rfl

theorem firstOccurrences_eraseDups (as : List α) : FirstOccurrences as.eraseDups as := by
  induction as using List.reverseRecOn with
  | nil => exact ⟨List.nodup_nil, fun _ => Iff.rfl, .nil⟩
  | append_singleton as c ih =>
    refine ⟨?_, fun _ => List.mem_eraseDups, ?_⟩ <;> rw [eraseDups_append_singleton]
    · split
      · exact ih.nodup
      · next hnew =>
        refine List.nodup_append.2 ⟨ih.nodup, List.pairwise_singleton _ c, ?_⟩
        rintro a ha b hb rfl
        rw [List.mem_singleton.1 hb] at ha
        exact hnew ((ih.mem_iff c).1 ha)
    · -- what has occurred before occurs first where it did
      have hkept : as.eraseDups.Pairwise fun a b => (as ++ [c]).idxOf a < (as ++ [c]).idxOf b := by
        refine ih.ordered.imp_of_mem fun {a b} ha hb hlt => ?_
        rwa [List.idxOf_append_of_mem ((ih.mem_iff a).1 ha),
          List.idxOf_append_of_mem ((ih.mem_iff b).1 hb)]
      split
      · exact hkept
      · next hnew =>
        refine List.pairwise_append.2 ⟨hkept, List.pairwise_singleton _ c, fun a ha b hb => ?_⟩
        have hold : a ∈ as := (ih.mem_iff a).1 ha
        rw [List.mem_singleton.1 hb, List.idxOf_append_of_mem hold,
          List.idxOf_append_of_notMem hnew]
        exact Nat.lt_add_right _ (List.idxOf_lt_length_iff.2 hold)

end Grounding

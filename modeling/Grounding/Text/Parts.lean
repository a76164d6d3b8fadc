/-!
# Parts of a text

A text that is cut at some places is the list of its parts, which is built from the last character
to the first.
-/

namespace Grounding.Text

def consFirst (c : Char) : List (List Char) → List (List Char)
  | [] => [[c]]
  | part :: parts => (c :: part) :: parts

theorem length_le_of_mem_consFirst {c : Char} {n : Nat} {ps : List (List Char)}
    (h : ∀ p ∈ ps, p.length ≤ n) : ∀ p ∈ consFirst c ps, p.length ≤ n + 1 := by
  intro p hp
  cases ps with
  | nil => simp [consFirst] at hp; simp [hp]
  | cons q qs =>
    simp only [consFirst, List.mem_cons] at hp
    rcases hp with rfl | hp
    · have := h q (by simp)
      simpa using this
    · have := h p (by simp [hp])
      omega

end Grounding.Text

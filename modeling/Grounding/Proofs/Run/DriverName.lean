import Grounding.Proofs.Run.Changes
import Grounding.Proofs.Text.SnakeCase

/-!
# Names of drivers

A driver is a file whose name is made of the name of its suite in snake case. Whatever the suite is
called, that is one name below the packages of the driver, and no further directory.
-/

namespace Grounding

open Text

theorem notMem_snakeCase (name : String) : ∀ c ∈ ['/', '\\', '.'], c ∉ (snakeCase name).toList := by
  have hmarks : ∀ c ∈ ['/', '\\', '.'], c.toNat < 0x61 ∧ isWord c = false := by
    have hall : ['/', '\\', '.'].all (fun c => c.toNat < 0x61 ∧ isWord c = false) = true := by
      decide
    simpa only [List.all_eq_true, decide_eq_true_eq] using hall
  intro c hc hmem
  obtain ⟨hlow, hother⟩ := hmarks c hc
  rw [isWord_of_mem_snakeCase hlow hmem] at hother
  cases hother

theorem TestSuite.backslash_notMem_driverName (s : TestSuite) : '\\' ∉ s.driverName.toList := by
  rw [s.toList_driverName, List.mem_append, List.mem_append]
  rintro ((h | h) | h)
  · exact absurd h (by decide)
  · exact notMem_snakeCase s.name '\\' (by decide) h
  · exact absurd h (by decide)

/-- A name in snake case is what one pass over the name makes of it. An ASCII name in snake case is
left as it is, and no name in snake case has a slash, a backslash or a dot in it. So the path of a
driver goes on behind its packages with one name. -/
theorem snakeCase_in_one_pass (name : String) :
    snakeCase name = String.ofList (lower (joinGaps (separateWords name.toList))) ∧
      ((∀ c ∈ name.toList, c.toNat < 128) → snakeCase (snakeCase name) = snakeCase name) ∧
      (∀ c ∈ ['/', '\\', '.'], c ∉ (snakeCase name).toList) ∧
      ∀ (o : RunOptions) (root : Path) (s : TestSuite), s.name = name → ∃ file : String,
        file = "test_" ++ snakeCase name ++ ".py" ∧ '/' ∉ file.toList ∧ '\\' ∉ file.toList ∧
          o.driverPath root s =
            ⟨(o.packagePath root).root, (o.packagePath root).parts ++ [file]⟩ := by
  refine ⟨snakeCase_eq name, fun hname => ?_, notMem_snakeCase name, ?_⟩
  · exact snakeCase_of_isSnake (isSnake_of_mem_snakeCase hname)
  · rintro o root s rfl
    exact ⟨s.driverName, rfl, s.slash_notMem_driverName, s.backslash_notMem_driverName,
      o.driverPath_eq root s⟩

/-- A name with an acronym, a digit between words, and a gap of two characters. -/
theorem snakeCase_in_one_pass_clearance :
    (∀ c ∈ "VATClearance 2Go//now".toList, c.toNat < 128) ∧
      snakeCase "VATClearance 2Go//now" = "vat_clearance_2_go_now" ∧
      snakeCase "vat_clearance_2_go_now" = "vat_clearance_2_go_now" := by
  have hname : ∀ c ∈ "VATClearance 2Go//now".toList, c.toNat < 128 := by
    have hall : "VATClearance 2Go//now".toList.all (·.toNat < 128) = true := by decide
    simpa only [List.all_eq_true, decide_eq_true_eq] using hall
  have hsnake : snakeCase "VATClearance 2Go//now" = "vat_clearance_2_go_now" := by decide +kernel
  have hagain := (snakeCase_in_one_pass "VATClearance 2Go//now").2.1 hname
  rw [hsnake] at hagain
  exact ⟨hname, hsnake, hagain⟩

-- the small letter of this capital has a mark of its own, which stands in no word
example : snakeCase "\u0130" = "i\u0307" ∧ snakeCase "i\u0307" = "i_" := by decide +kernel

end Grounding

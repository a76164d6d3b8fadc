import Grounding.Proofs.Driver.Grounded
import Grounding.Proofs.Driver.Code

/-!
# Independence of the methods

The text of a driver is a head and then a text for each sequence. A method is written from its own
sequence and its number alone, whatever the suite is called and whatever else is in it.
-/

namespace Grounding

open Emission

variable {s s' : TestSuite} {o o' : DriverOptions} {r r' : DependencyRecord}

/-- The text of a driver as far as its first method. -/
def Heading.text (h : Heading) : String :=
  Code.textAt 0 (h.preamble ++ [.block h.classHeader h.classHead])

/-- The text of the method of a sequence, with the blank line before it. -/
def Backend.methodText (b : Backend) (metaCheck : Bool) (index : Nat) (q : TestSequence) : String :=
  Code.textAt 1 (.blank 1 :: (b.method metaCheck index q).code)

namespace TestSuite

def methodTexts (s : TestSuite) (o : DriverOptions) : List String :=
  (s.sequences.zipIdx 1).map fun qi => o.backend.methodText (s.checksReports o) qi.2 qi.1

theorem textAt_driverCode (h : Heading) (methods : List Code) :
    Code.textAt 0 (driverCode h methods) =
      h.text ++ String.join (methods.map fun method => Code.textAt 1 [.blank 1, method]) := by
  rw [driverCode, classMembers, Heading.text, Code.textAt_append, Code.textAt_append, Code.textAt_block,
    Code.textAt_block, Code.textAt_append, Code.textAt_flatMap]
  simp only [String.append_assoc]

theorem ground_text_eq (h : (s.ground o).result = .ok r) :
    (s.ground o).text = (s.heading o r).text ++ String.join (s.methodTexts o) := by
  obtain ⟨hprepare, hresult⟩ := ground_eq_ok_iff.1 h
  obtain ⟨code, hcode⟩ := exists_writes_iff.2 hresult
  obtain ⟨methods, hmethods, rfl⟩ := emit_writes_iff.1 hcode
  have htexts : methods.map (fun method => Code.textAt 1 [.blank 1, method]) = s.methodTexts o := by
    rw [methodTexts, eq_comm, Itemwise.map_eq_map_iff_forall₂]
    refine hmethods.imp fun qi method hmethod => ?_
    rw [Backend.methodText, hmethod.code_eq]
  rw [ground_of_prepare hprepare, hcode.code_eq, textAt_driverCode, htexts]

theorem methodTexts_getElem? {i : Nat} {q : TestSequence} (hq : s.sequences[i]? = some q) :
    (s.methodTexts o)[i]? = some (o.backend.methodText (s.checksReports o) (i + 1) q) := by
  rw [methodTexts, List.getElem?_map, List.getElem?_zipIdx, hq, Nat.add_comm]
  rfl

theorem ground_text_split (h : (s.ground o).result = .ok r) {i : Nat} {q : TestSequence}
    (hq : s.sequences[i]? = some q) : (s.ground o).text =
      (s.heading o r).text ++ String.join ((s.methodTexts o).take i) ++
        o.backend.methodText (s.checksReports o) (i + 1) q ++
        String.join ((s.methodTexts o).drop (i + 1)) := by
  obtain ⟨hlt, hget⟩ := List.getElem?_eq_some_iff.1 (methodTexts_getElem? (o := o) hq)
  have hcut : s.methodTexts o = (s.methodTexts o).take i ++
      o.backend.methodText (s.checksReports o) (i + 1) q :: (s.methodTexts o).drop (i + 1) := by
    rw [← hget, List.getElem_cons_drop, List.take_append_drop]
  have hjoin := congrArg String.join hcut
  rw [String.join_append, String.join_cons] at hjoin
  rw [ground_text_eq h, hjoin, String.append_assoc, String.append_assoc]

end TestSuite

/-- The head of a driver depends on the sequences through the dependency record alone, and the
methods of two drivers at the same place are the same text if they are of the same sequence, for the
same grounding and with the same choice on reports. -/
theorem TestSuite.methods_independent (h : (s.ground o).result = .ok r) :
    (s.ground o).text = (s.heading o r).text ++ String.join (s.methodTexts o) ∧
    (∀ s' : TestSuite, s'.name = s.name → s'.notices = s.notices →
      s'.checksReports o = s.checksReports o → s'.heading o r = s.heading o r) ∧
    ∀ (s' : TestSuite) (o' : DriverOptions) (r' : DependencyRecord),
      (s'.ground o').result = .ok r' → o'.backend = o.backend →
      s'.checksReports o' = s.checksReports o → ∀ (i : Nat) (q : TestSequence),
        s.sequences[i]? = some q → s'.sequences[i]? = some q →
          (s.ground o).text = (s.heading o r).text ++ String.join ((s.methodTexts o).take i) ++
            o.backend.methodText (s.checksReports o) (i + 1) q ++
            String.join ((s.methodTexts o).drop (i + 1)) ∧
          (s'.ground o').text = (s'.heading o' r').text ++
            String.join ((s'.methodTexts o').take i) ++
            o.backend.methodText (s.checksReports o) (i + 1) q ++
            String.join ((s'.methodTexts o').drop (i + 1)) := by
  refine ⟨ground_text_eq h, fun s' hname hnotices hreports => ?_, ?_⟩
  · rw [heading, heading, hname, hnotices, hreports]
  · intro s' o' r' h' hbackend hreports i q hq hq'
    have hsplit' := ground_text_split h' hq'
    rw [hbackend, hreports] at hsplit'
    exact ⟨ground_text_split h hq, hsplit'⟩

/-- A larger suite under another name has the same first method. -/
theorem TestSuite.methods_independent_of_stack : ∃ (s' : TestSuite) (r r' : DependencyRecord)
    (method : String), s'.name = "Pile" ∧ s'.sequences.length = 2 ∧
      (stack.ground (sampleOptions .rest)).text =
        (stack.heading (sampleOptions .rest) r).text ++
          String.join ((stack.methodTexts (sampleOptions .rest)).take 0) ++ method ++
          String.join ((stack.methodTexts (sampleOptions .rest)).drop 1) ∧
      (s'.ground (sampleOptions .rest)).text =
        (s'.heading (sampleOptions .rest) r').text ++
          String.join ((s'.methodTexts (sampleOptions .rest)).take 0) ++ method ++
          String.join ((s'.methodTexts (sampleOptions .rest)).drop 1) := by
  obtain ⟨r, h⟩ := exists_ground_stack .rest
  let s' : TestSuite :=
    { stack with name := "Pile", sequences := stack.sequences ++ stack.sequences }
  obtain ⟨r', h'⟩ : ∃ r', (s'.ground (sampleOptions .rest)).result = .ok r' := by
    rw [← Outcome.isOk_iff]
    decide +kernel
  obtain ⟨-, -, hmethods⟩ := methods_independent h
  obtain ⟨htext, htext'⟩ := hmethods s' _ r' h' rfl rfl 0 _ rfl rfl
  exact ⟨s', r, r', _, rfl, rfl, htext, htext'⟩

end Grounding

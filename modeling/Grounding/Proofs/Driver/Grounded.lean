import Grounding.Proofs.Driver.Step
import Grounding.Proofs.Itemwise

/-!
# The code of a driver

A suite has a driver if all its steps have the operations they need, its types can be read, and the
writing comes to its end. The driver then is a head, which no sequence has a part in, and one method
for each sequence with the forms of its steps.
-/

namespace Grounding

open Emission

variable {s : TestSuite} {o : DriverOptions} {r : DependencyRecord} {b : Backend}

namespace Backend

/-- A method of a sequence holds the forms of its steps, numbered from zero, each with its
reports. -/
def MethodForm (b : Backend) (metaCheck : Bool) (index : Nat) (q : TestSequence)
    (method : Code) : Prop :=
  ∃ summary parts, methodSummary index q = .ok summary ∧ List.Forall₂
      (fun ti part => ∃ body, StepForm b ti.2 ti.1 body ∧ part = body ++ reports b metaCheck ti.1)
      q.steps.zipIdx parts ∧
    method = .block (testHeader index) (.docstring summary :: parts.flatten)

theorem method_writes_iff_form {metaCheck : Bool} {index : Nat} {q : TestSequence} {method : Code}
    (hops : ∀ t ∈ q.steps, t.lacksOperation = false) :
    (b.method metaCheck index q).Writes [method] () ↔ MethodForm b metaCheck index q method := by
  have hstep : ∀ ti ∈ q.steps.zipIdx, ∀ part, (b.step metaCheck ti.2 ti.1).Writes part () ↔
      ∃ body, StepForm b ti.2 ti.1 body ∧ part = body ++ reports b metaCheck ti.1 :=
    fun ti hti _ => step_writes_iff (hops ti.1 (List.fst_mem_of_mem_zipIdx hti))
  rw [method_writes_iff]
  constructor
  · rintro ⟨summary, parts, hsummary, hparts, hmethod⟩
    exact ⟨summary, parts, hsummary,
      Itemwise.forall₂_imp_of_mem hparts fun ti hti part => (hstep ti hti part).1,
      List.singleton_inj.1 hmethod⟩
  · rintro ⟨summary, parts, hsummary, hparts, rfl⟩
    exact ⟨summary, parts, hsummary,
      Itemwise.forall₂_imp_of_mem hparts fun ti hti part => (hstep ti hti part).2, rfl⟩

end Backend

/-! ### Checks before writing -/

theorem checkOperations_eq_ok_iff {n : Nat} {qs : List TestSequence} :
    checkOperations n qs = .ok () ↔ ∀ q ∈ qs, ∀ t ∈ q.steps, t.lacksOperation = false := by
  induction qs generalizing n with
  | nil => exact iff_of_true rfl (List.forall_mem_nil _)
  | cons q qs ih =>
    rw [checkOperations, List.forall_mem_cons]
    cases hfind : q.steps.find? TestStep.lacksOperation with
    | some t =>
      refine iff_of_false nofun fun h => ?_
      have hhas := h.1 t (List.mem_of_find?_eq_some hfind)
      rw [List.find?_some hfind] at hhas
      cases hhas
    | none =>
      have hall : ∀ t ∈ q.steps, t.lacksOperation = false := fun t ht =>
        Bool.eq_false_iff.2 (List.find?_eq_none.1 hfind t ht)
      exact ih.trans (and_iff_right hall).symm

namespace TestSuite

/-- Each step that needs an operation has one. -/
def HasOperations (s : TestSuite) : Prop :=
  ∀ q ∈ s.sequences, ∀ t ∈ q.steps, t.lacksOperation = false

theorem prepare_eq_ok_iff : s.prepare o = .ok r ↔
    s.HasOperations ∧ s.analyse o.targetPackage o.sourcePackages = .ok r := by
  rw [prepare, Outcome.bind_eq_ok_iff]
  constructor
  · rintro ⟨_, hcheck, hanalyse⟩
    exact ⟨checkOperations_eq_ok_iff.1 hcheck, Outcome.mapError_eq_ok_iff.1 hanalyse⟩
  · rintro ⟨hops, hanalyse⟩
    exact ⟨(), checkOperations_eq_ok_iff.2 hops, Outcome.mapError_eq_ok_iff.2 hanalyse⟩

theorem ground_of_prepare (h : s.prepare o = .ok r) : s.ground o =
    ⟨Code.textAt 0 (s.emit o r).code,
      ((s.emit o r).result.mapError .fault).map fun _ => r⟩ := by
  rw [ground, h]

theorem ground_eq_ok_iff : (s.ground o).result = .ok r ↔
    s.prepare o = .ok r ∧ (s.emit o r).result = .ok () := by
  cases hprepare : s.prepare o with
  | error e =>
    rw [ground, hprepare]
    exact iff_of_false nofun fun h => nomatch h.1
  | ok r' =>
    rw [ground_of_prepare hprepare, Outcome.exceptMap_eq_ok_iff]
    simp only [Outcome.mapError_eq_ok_iff]
    constructor
    · rintro ⟨_, hresult, rfl⟩
      exact ⟨rfl, hresult⟩
    · rintro ⟨hr, hresult⟩
      obtain rfl := Except.ok.inj hr
      exact ⟨(), hresult, rfl⟩

/-! ### The whole driver -/

/-- The members of the class: its head, and the given methods with a blank line before each. -/
def classMembers (h : Heading) (methods : List Code) : List Code :=
  h.classHead ++ methods.flatMap fun method => [.blank 1, method]

def driverCode (h : Heading) (methods : List Code) : List Code :=
  h.preamble ++ [.block h.classHeader (classMembers h methods)]

theorem emit_writes_iff {code : List Code} : (s.emit o r).Writes code () ↔ ∃ methods,
    List.Forall₂ (fun qi method =>
      (o.backend.method (s.checksReports o) qi.2 qi.1).Writes [method] ())
      (s.sequences.zipIdx 1) methods ∧ code = driverCode (s.heading o r) methods := by
  rw [emit]
  simp only [write_bind_writes_iff, block_writes_iff, Backend.methodsFrom_writes_iff]
  constructor
  · rintro ⟨_, ⟨_, ⟨_, ⟨methods, hmethods, rfl⟩, rfl⟩, rfl⟩, rfl⟩
    exact ⟨methods, hmethods, rfl⟩
  · rintro ⟨methods, hmethods, rfl⟩
    exact ⟨_, ⟨_, ⟨_, ⟨methods, hmethods, rfl⟩, rfl⟩, rfl⟩, rfl⟩

theorem forall₂_method_writes_iff (hops : s.HasOperations) {methods : List Code} :
    List.Forall₂ (fun qi method =>
        (o.backend.method (s.checksReports o) qi.2 qi.1).Writes [method] ())
        (s.sequences.zipIdx 1) methods ↔
      List.Forall₂ (fun qi => o.backend.MethodForm (s.checksReports o) qi.2 qi.1)
        (s.sequences.zipIdx 1) methods := by
  have hmethod : ∀ qi ∈ s.sequences.zipIdx 1, ∀ method,
      (o.backend.method (s.checksReports o) qi.2 qi.1).Writes [method] () ↔
        o.backend.MethodForm (s.checksReports o) qi.2 qi.1 method :=
    fun qi hqi _ => Backend.method_writes_iff_form (hops qi.1 (List.fst_mem_of_mem_zipIdx hqi))
  exact ⟨fun h => Itemwise.forall₂_imp_of_mem h fun qi hqi method => (hmethod qi hqi method).1,
    fun h => Itemwise.forall₂_imp_of_mem h fun qi hqi method => (hmethod qi hqi method).2⟩

/-- The code of the methods of a suite, numbered from one. -/
def methodCode (s : TestSuite) (o : DriverOptions) : List Code :=
  (s.sequences.zipIdx 1).flatMap fun qi =>
    (o.backend.method (s.checksReports o) qi.2 qi.1).code

/-- A suite that has a driver has passed the checks. The text of the driver is that of the code that
was written, and its methods have the forms of their sequences. -/
theorem code_of_ground (h : (s.ground o).result = .ok r) :
    s.HasOperations ∧ s.analyse o.targetPackage o.sourcePackages = .ok r ∧
      (s.ground o).text = Code.textAt 0 (s.emit o r).code ∧
      (s.emit o r).code = driverCode (s.heading o r) (s.methodCode o) ∧
      List.Forall₂ (fun qi => o.backend.MethodForm (s.checksReports o) qi.2 qi.1)
        (s.sequences.zipIdx 1) (s.methodCode o) := by
  obtain ⟨hprepare, hresult⟩ := ground_eq_ok_iff.1 h
  obtain ⟨hops, hanalyse⟩ := prepare_eq_ok_iff.1 hprepare
  obtain ⟨code, hcode⟩ := exists_writes_iff.2 hresult
  obtain ⟨methods, hmethods, rfl⟩ := emit_writes_iff.1 hcode
  obtain rfl : s.methodCode o = methods := by
    rw [methodCode, flatMap_code_eq (List.forall₂_map_right_iff.2 hmethods), ← List.flatMap_def]
    exact List.flatMap_singleton' methods
  refine ⟨hops, hanalyse, ?_, hcode.code_eq, (forall₂_method_writes_iff hops).1 hmethods⟩
  rw [ground_of_prepare hprepare]

/-! ### An example -/

/-- A step that puts items on a stack and returns its size. -/
def stackPush : TestStep :=
  ⟨"push/ok[1]", "Filled", true, some ⟨"push", [⟨"items", "List[Item]", some "[a, b]", true⟩],
    [⟨"size", "Integer", some "2", true⟩], []⟩⟩

/-- A suite for a stack, which is set up, takes items, and then refuses a call. -/
def stack : TestSuite where
  name := "Stack"
  grounding := none
  metaCheck := true
  sequences := [⟨1, "Empty", 2,
    [⟨"create/ok", "Empty", true, none⟩, stackPush,
      ⟨"pop/error", "Filled", true,
        some ⟨"pop", [], [], [⟨"reason", "String", some "locked", true⟩]⟩⟩]⟩]
  notices := []

/-- Options that leave it to the suite whether reports are checked. -/
def sampleOptions (b : Backend) : DriverOptions where
  backend := b
  metaCheck := none
  endpoint := none
  targetPackage := "generated"
  sourcePackages := ["client"]
  generatedAt := ⟨2026, 1, 1, 12, 0, 0⟩

theorem exists_ground_stack (b : Backend) :
    ∃ r, (stack.ground (sampleOptions b)).result = .ok r := by
  rw [← Outcome.isOk_iff]
  cases b <;> decide +kernel

end TestSuite

end Grounding

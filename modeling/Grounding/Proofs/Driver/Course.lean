import Grounding.Proofs.Driver.Code
import Grounding.Proofs.Driver.Grounded
import Mathlib.Data.List.TakeWhile

/-!
# The course of a test method

A driver has one test method for each sequence. In it the steps follow each other as they do in the
sequence; each makes its call once, reads no variable that it has not assigned before, and checks
something only if it is verified.
-/

namespace Grounding

/-! ### What statements do -/

def Variable.step : Variable → Nat
  | actual step | expect step | response step | receiver _ step => step

namespace Statement

def calls : Statement → List Call
  | invoke c | assign _ _ (.call c) | assign _ _ (.callItems c) => [c]
  | _ => []

def reads : Statement → List Variable
  | assign _ _ (.decoded _ response) => [response]
  | assertEqual _ actual => [actual]
  | assertSequenceEqual expected actual => [expected, actual]
  | assertNone v => [v]
  | _ => []

def assigns : Statement → List Variable
  | assign v _ _ => [v]
  | _ => []

/-- Whether a statement ends the test when something is not as it should be. -/
def isCheck : Statement → Bool
  | assertEqual _ _ | assertSequenceEqual _ _ | assertNone _ | assertPresent _ | assertMessage _
  | assertReport _ _ | fail _ => true
  | plain _ | comment _ | invoke _ | assign _ _ _ => false

/-- Whether a statement ends the test in any case. -/
def isFail : Statement → Bool
  | fail _ => true
  | _ => false

def isReport : Statement → Bool
  | assertReport _ _ => true
  | _ => false

/-- A statement handles outputs of a step: its variables have the number of the step, and it is
neither a report nor a failure nor a fixed line. -/
def Handles (index : Nat) (s : Statement) : Prop :=
  (∀ v ∈ s.reads ++ s.assigns, v.step = index) ∧ s.isReport = false ∧ s.isFail = false ∧
    ∀ text, s ≠ plain text

end Statement

/-- Each statement reads only what is known at first or has been assigned before it. -/
def AssignedBeforeRead (known : List Variable) : List Statement → Prop
  | [] => True
  | s :: rest => (∀ v ∈ s.reads, v ∈ known) ∧ AssignedBeforeRead (known ++ s.assigns) rest

theorem assignedBeforeRead_append {known : List Variable} {xs ys : List Statement} :
    AssignedBeforeRead known (xs ++ ys) ↔ AssignedBeforeRead known xs ∧
      AssignedBeforeRead (known ++ xs.flatMap Statement.assigns) ys := by
  induction xs generalizing known with
  | nil => simp [AssignedBeforeRead]
  | cons x xs ih =>
    rw [List.cons_append, AssignedBeforeRead, AssignedBeforeRead, ih, List.flatMap_cons,
      List.append_assoc, and_assoc]

theorem assignedBeforeRead_of_forall {known : List Variable} {xs : List Statement}
    (h : ∀ s ∈ xs, s.reads = []) : AssignedBeforeRead known xs := by
  induction xs generalizing known with
  | nil => trivial
  | cons x xs ih =>
    rw [List.forall_mem_cons] at h
    refine ⟨?_, ih h.2⟩
    rw [h.1]
    exact List.forall_mem_nil _

/-! ### Scenarios -/

/-- The part of a name before its first opening bracket, or the whole name if it has none. -/
def IsCutAtBracket (name part : String) : Prop :=
  '[' ∉ part.toList ∧ (part = name ∨ ∃ rest, name.toList = part.toList ++ '[' :: rest)

theorem isCutAtBracket_scenario (t : TestStep) : IsCutAtBracket t.name t.scenario := by
  rw [IsCutAtBracket, TestStep.scenario, String.toList_ofList]
  refine ⟨fun hmem => ?_, ?_⟩
  · have hne := List.mem_takeWhile_imp hmem
    simp at hne
  · have hcut := List.takeWhile_append_dropWhile (p := (· != '[')) (l := t.name.toList)
    cases hrest : t.name.toList.dropWhile (· != '[') with
    | nil =>
      rw [hrest, List.append_nil] at hcut
      exact .inl (by rw [hcut, String.ofList_toList])
    | cons x rest =>
      have hx := List.head_dropWhile_not (p := (· != '[')) (l := t.name.toList) (by simp [hrest])
      simp only [hrest, List.head_cons, bne_eq_false_iff_eq] at hx
      rw [hrest, hx] at hcut
      exact .inr ⟨rest, hcut.symm⟩

namespace Backend

open Code

variable {b : Backend} {c : Call} {i : Nat} {t : TestStep} {ps : List Parameter}
  {ss received expected : List Statement} {body : List Code}

/-! ### Outputs -/

theorem Receives.calls_eq (h : Receives c i b ps ss) : ss.flatMap Statement.calls = [c] := by
  cases h <;> rfl

theorem Compares.calls_eq (h : Compares i b ps ss) : ss.flatMap Statement.calls = [] := by
  cases h <;> rfl

theorem Receives.handles (h : Receives c i b ps ss) : ∀ s ∈ ss, s.Handles i := by
  cases h <;> simp [Statement.Handles, Statement.reads, Statement.assigns, Variable.step,
    Statement.isReport, Statement.isFail]

theorem Compares.handles (h : Compares i b ps ss) : ∀ s ∈ ss, s.Handles i := by
  cases h <;> simp [Statement.Handles, Statement.reads, Statement.assigns, Variable.step,
    Statement.isReport, Statement.isFail]

/-- The variables that are read to compare outputs. -/
def awaited (b : Backend) (i : Nat) : List Parameter → List Variable
  | [] => if b = .rest then [.response i] else []
  | [p] => [.receiver p.name i]
  | _ => [.actual i]

theorem awaited_several (h : 2 ≤ ps.length) : b.awaited i ps = [.actual i] := by
  rcases ps with _ | ⟨p, _ | ⟨q, ps⟩⟩
  · exact absurd h (by decide)
  · exact absurd h (by simp)
  · rfl

theorem Receives.assigns_awaited (h : Receives c i b ps ss) :
    ∀ v ∈ b.awaited i ps, v ∈ ss.flatMap Statement.assigns := by
  cases h with
  | nothing hb =>
    rw [awaited, if_neg hb]
    exact List.forall_mem_nil _
  | several hseveral | items hseveral =>
    rw [awaited_several hseveral]
    exact fun v hv => hv
  | one | response => exact fun v hv => hv
  | decoded => exact fun v hv => List.mem_cons_of_mem _ hv
  | @decodedList p ps d hne =>
    cases ps with
    | nil => exact absurd rfl hne
    | cons q ps => exact fun v hv => List.mem_cons_of_mem _ hv

theorem Receives.assignedBeforeRead (h : Receives c i b ps ss) : AssignedBeforeRead [] ss := by
  cases h <;> simp [AssignedBeforeRead, Statement.reads, Statement.assigns]

theorem Compares.assignedBeforeRead (h : Compares i b ps ss) {known : List Variable}
    (hknown : ∀ v ∈ b.awaited i ps, v ∈ known) : AssignedBeforeRead known ss := by
  cases h with
  | nothing => trivial
  | noResponse | one => exact ⟨hknown, trivial⟩
  | several hseveral =>
    have hactual : Variable.actual i ∈ known := by
      refine hknown _ ?_
      rw [awaited_several hseveral]
      exact List.mem_cons_self
    simp [AssignedBeforeRead, Statement.reads, Statement.assigns, hactual]

theorem assignedBeforeRead_compared (hreceived : Receives c i b ps received)
    (hexpected : Compares i b ps expected) (what : String) :
    AssignedBeforeRead [] (received ++ stepComment what i :: expected) := by
  rw [assignedBeforeRead_append]
  refine ⟨hreceived.assignedBeforeRead, List.forall_mem_nil _,
    hexpected.assignedBeforeRead fun v hv => ?_⟩
  exact List.mem_append_left _ (hreceived.assigns_awaited v hv)

/-! ### Forms -/

theorem eq_of_mem_ready {what : String} {s : Statement}
    (hs : s ∈ stepComment what i :: b.readyFields.map .assertPresent) :
    s = stepComment what i ∨ ∃ field, s = .assertPresent field := by
  rw [List.mem_cons, List.mem_map] at hs
  exact hs.imp id fun ⟨field, _, h⟩ => ⟨field, h.symm⟩

namespace StepForm

theorem calls_eq_nil (h : StepForm b i t body) (hkind : t.kind = .initial) :
    ∀ s ∈ statementsIn body, s.calls = [] := by
  cases h with
  | passed => exact List.forall_mem_nil _
  | ready =>
    rw [statementsIn_map_statement]
    intro s hs
    obtain rfl | ⟨field, rfl⟩ := eq_of_mem_ready hs <;> rfl
  | invoked hk | compared hk | tolerated hk | expected hk => exact nomatch hkind.symm.trans hk

theorem exists_call (h : StepForm b i t body) (hkind : t.kind ≠ .initial) :
    ∃ o c, t.operation = some o ∧ Invokes o b c ∧
      (statementsIn body).flatMap Statement.calls = [c] := by
  cases h with
  | passed hk | ready hk => exact absurd hk hkind
  | invoked _ _ ho hc | tolerated _ _ ho hc | expected _ _ ho hc => exact ⟨_, _, ho, hc, rfl⟩
  | compared _ _ ho hc hreceived hexpected =>
    refine ⟨_, _, ho, hc, ?_⟩
    rw [statementsIn_map_statement, List.flatMap_append, List.flatMap_cons, hreceived.calls_eq,
      hexpected.calls_eq]
    rfl

theorem numbered (h : StepForm b i t body) : ∀ s ∈ statementsIn body,
    (∀ v ∈ s.reads ++ s.assigns, v.step = i) ∧ s.isReport = false ∧
      ∀ text, s = .plain text → text = passLine := by
  intro s hs
  obtain ⟨o, c, -, -, rfl⟩ | ⟨o, c, ss, -, -, hreceived, hs⟩ | ⟨o, ss, -, hexpected, hs⟩ | hfixed :=
    h.mem_cases hs
  · exact ⟨List.forall_mem_nil _, rfl, nofun⟩
  · obtain ⟨hstep, hreport, -, hplain⟩ := hreceived.handles s hs
    exact ⟨hstep, hreport, fun text h => absurd h (hplain text)⟩
  · obtain ⟨hstep, hreport, -, hplain⟩ := hexpected.handles s hs
    exact ⟨hstep, hreport, fun text h => absurd h (hplain text)⟩
  · cases hfixed with
    | pass => exact ⟨List.forall_mem_nil _, rfl, fun _ h => (Statement.plain.inj h).symm⟩
    | comment | assertPresent | assertMessage | fail => exact ⟨List.forall_mem_nil _, rfl, nofun⟩

theorem announces (h : StepForm b i t body) (hverify : t.verify = true) :
    ∃ what, stepComment what i ∈ statementsIn body := by
  cases h with
  | passed _ hv | invoked _ hv | tolerated _ hv => exact nomatch hverify.symm.trans hv
  | ready =>
    rw [statementsIn_map_statement]
    exact ⟨_, List.mem_cons_self⟩
  | compared =>
    rw [statementsIn_map_statement]
    exact ⟨_, List.mem_append_right _ List.mem_cons_self⟩
  | expected => exact ⟨"exception", by simp [statementsIn, statements]⟩

theorem assignedBeforeRead (h : StepForm b i t body) :
    AssignedBeforeRead [] (statementsIn body) := by
  cases h with
  | compared _ _ _ _ hreceived hexpected =>
    rw [statementsIn_map_statement]
    exact assignedBeforeRead_compared hreceived hexpected _
  | ready =>
    rw [statementsIn_map_statement]
    refine assignedBeforeRead_of_forall fun s hs => ?_
    obtain rfl | ⟨field, rfl⟩ := eq_of_mem_ready hs <;> rfl
  | passed | invoked | tolerated | expected =>
    refine assignedBeforeRead_of_forall ?_
    simp [statementsIn, statements, stepComment, Statement.reads]

theorem isCheck_eq_false (h : StepForm b i t body) (hverify : t.verify = false) :
    ∀ s ∈ statementsIn body, s.isCheck = false := by
  cases h with
  | ready _ hv | compared _ hv | expected _ hv => exact nomatch hverify.symm.trans hv
  | passed | invoked | tolerated => simp [statementsIn, statements, Statement.isCheck]

theorem isFail_eq_false (h : StepForm b i t body) (hkind : t.kind ≠ .failure) :
    ∀ s ∈ statementsIn body, s.isFail = false := by
  cases h with
  | compared _ _ _ _ hreceived hexpected =>
    rw [statementsIn_map_statement, List.forall_mem_append, List.forall_mem_cons]
    exact ⟨fun s hs => (hreceived.handles s hs).2.2.1, rfl,
      fun s hs => (hexpected.handles s hs).2.2.1⟩
  | ready =>
    rw [statementsIn_map_statement]
    intro s hs
    obtain rfl | ⟨field, rfl⟩ := eq_of_mem_ready hs <;> rfl
  | passed | invoked => simp [statementsIn, statements, Statement.isFail]
  | tolerated hk | expected hk => exact absurd hk hkind

theorem exists_guarded (h : StepForm b i t body) (hkind : t.kind = .failure) :
    ∃ c handler alternative,
      body = .block "try:" [.statement (.invoke c)] ::
        .block "except Exception as ex:" handler :: alternative ∧
      (∀ s ∈ statementsIn handler, s.isFail = false) ∧
      if t.verify then ∃ outcome, alternative = [.block "else:" outcome] ∧
        ∃ s ∈ statementsIn outcome, s.isFail = true
      else alternative = [] := by
  cases h with
  | passed hk | ready hk | invoked hk | compared hk => exact nomatch hkind.symm.trans hk
  | tolerated _ hverify =>
    rw [hverify]
    exact ⟨_, _, [], rfl, by simp [statementsIn, statements, Statement.isFail], rfl⟩
  | expected _ hverify =>
    rw [hverify]
    refine ⟨_, _, _, rfl, by simp [statementsIn, statements, Statement.isFail], _, rfl, ?_⟩
    rw [statementsIn_map_statement]
    exact ⟨_, List.mem_cons_of_mem _ List.mem_cons_self, rfl⟩

theorem exists_compared (h : StepForm b i t body) (hkind : t.kind = .normal)
    (hverify : t.verify = true) : ∃ o c received expected, t.operation = some o ∧
      Invokes o b c ∧ Receives c i b o.outputs received ∧ Compares i b o.outputs expected ∧
      body = (received ++ stepComment "invocation" i :: expected).map .statement := by
  cases h with
  | compared _ _ ho hc hreceived hexpected =>
    exact ⟨_, _, _, _, ho, hc, hreceived, hexpected, rfl⟩
  | invoked _ hv => exact nomatch hverify.symm.trans hv
  | passed hk | ready hk | tolerated hk | expected hk => exact nomatch hkind.symm.trans hk

end StepForm

/-! ### Steps -/

/-- Code carries out a step of a method. -/
structure CarriesOut (b : Backend) (metaCheck : Bool) (index : Nat) (t : TestStep)
    (code : List Code) : Prop where
  /-- The code is one of the forms of a step and then the reports, line by line. -/
  formed : ∃ body, StepForm b index t body ∧ code = body ++ reports b metaCheck t
  /-- An initial step makes no call. -/
  initial : t.kind = .initial → ∀ s ∈ statementsIn code, s.calls = []
  /-- Any other step makes one call, that of its operation with all inputs. -/
  called : t.kind ≠ .initial → ∃ o c, t.operation = some o ∧ Invokes o b c ∧
    (statementsIn code).flatMap Statement.calls = [c]
  /-- A verified call that should return has its outputs taken up, and then all of them compared
  with what is expected. -/
  compared : t.kind = .normal → t.verify = true → ∃ o c received expected,
    t.operation = some o ∧ Invokes o b c ∧ Receives c index b o.outputs received ∧
    Compares index b o.outputs expected ∧
    code = (received ++ stepComment "invocation" index :: expected).map .statement ++
      reports b metaCheck t
  /-- The variables have the number of the step. -/
  numbered : ∀ s ∈ statementsIn code, ∀ v ∈ s.reads ++ s.assigns, v.step = index
  /-- A verified step is announced with its number. -/
  announced : t.verify = true → ∃ what, stepComment what index ∈ statementsIn code
  /-- What is read has been assigned before, in the step itself. -/
  assigned : AssignedBeforeRead [] (statementsIn code)
  /-- A call that should fail stands alone, and the test fails only where the call has returned. -/
  guarded : t.kind = .failure → ∃ c handler alternative,
    code = .block "try:" [.statement (.invoke c)] ::
      .block "except Exception as ex:" handler :: (alternative ++ reports b metaCheck t) ∧
    (∀ s ∈ statementsIn (handler ++ reports b metaCheck t), s.isFail = false) ∧
    if t.verify then ∃ outcome, alternative = [.block "else:" outcome] ∧
      ∃ s ∈ statementsIn outcome, s.isFail = true
    else alternative = []
  /-- No other step lets the test fail in any case. -/
  unfailing : t.kind ≠ .failure → ∀ s ∈ statementsIn code, s.isFail = false
  /-- Only a verified step checks something. -/
  unchecked : t.verify = false → ∀ s ∈ statementsIn code, s.isCheck = false
  /-- A fixed line does nothing. -/
  passes : ∀ text, .plain text ∈ statementsIn code → text = passLine
  /-- The two reports on a verified step come at its end. -/
  reported : (t.verify && metaCheck) = true → ∃ before scenario,
    code = before ++ [.statement (.assertReport scenario b.getters.1),
      .statement (.assertReport t.state b.getters.2)] ∧
    IsCutAtBracket t.name scenario ∧ ∀ s ∈ statementsIn before, s.isReport = false
  /-- Otherwise there are none. -/
  unreported : (t.verify && metaCheck) = false → ∀ s ∈ statementsIn code, s.isReport = false

theorem StepForm.carriesOut {metaCheck : Bool} (h : StepForm b i t body) :
    CarriesOut b metaCheck i t (body ++ reports b metaCheck t) := by
  have hmem : ∀ s ∈ statementsIn (body ++ reports b metaCheck t), s ∈ statementsIn body ∨
      (t.verify && metaCheck) = true ∧ ∃ expected getter, s = .assertReport expected getter := by
    intro s hs
    rw [statementsIn_append, List.mem_append] at hs
    exact hs.imp id isReport_of_mem_reports
  constructor
  case formed => exact ⟨body, h, rfl⟩
  case compared =>
    intro hkind hverify
    obtain ⟨o, c, received, expected, ho, hc, hreceived, hexpected, rfl⟩ :=
      h.exists_compared hkind hverify
    exact ⟨o, c, received, expected, ho, hc, hreceived, hexpected, rfl⟩
  case initial =>
    intro hkind s hs
    obtain hs | ⟨-, _, _, rfl⟩ := hmem s hs
    · exact h.calls_eq_nil hkind s hs
    · rfl
  case called =>
    intro hkind
    obtain ⟨o, c, ho, hc, hcalls⟩ := h.exists_call hkind
    have hreports : (statementsIn (reports b metaCheck t)).flatMap Statement.calls = [] := by
      rw [List.flatMap_eq_nil_iff]
      intro s hs
      obtain ⟨-, _, _, rfl⟩ := isReport_of_mem_reports hs
      rfl
    refine ⟨o, c, ho, hc, ?_⟩
    rw [statementsIn_append, List.flatMap_append, hcalls, hreports]
    rfl
  case numbered =>
    intro s hs
    obtain hs | ⟨-, _, _, rfl⟩ := hmem s hs
    · exact (h.numbered s hs).1
    · exact List.forall_mem_nil _
  case announced =>
    intro hverify
    obtain ⟨what, hwhat⟩ := h.announces hverify
    exact ⟨what, by rw [statementsIn_append]; exact List.mem_append_left _ hwhat⟩
  case assigned =>
    rw [statementsIn_append, assignedBeforeRead_append]
    refine ⟨h.assignedBeforeRead, assignedBeforeRead_of_forall fun s hs => ?_⟩
    obtain ⟨-, _, _, rfl⟩ := isReport_of_mem_reports hs
    rfl
  case guarded =>
    intro hkind
    obtain ⟨c, handler, alternative, rfl, hhandler, halternative⟩ := h.exists_guarded hkind
    refine ⟨c, handler, alternative, rfl, ?_, halternative⟩
    rw [statementsIn_append, List.forall_mem_append]
    refine ⟨hhandler, fun s hs => ?_⟩
    obtain ⟨-, _, _, rfl⟩ := isReport_of_mem_reports hs
    rfl
  case unfailing =>
    intro hkind s hs
    obtain hs | ⟨-, _, _, rfl⟩ := hmem s hs
    · exact h.isFail_eq_false hkind s hs
    · rfl
  case unchecked =>
    intro hverify s hs
    obtain hs | ⟨hchecks, -⟩ := hmem s hs
    · exact h.isCheck_eq_false hverify s hs
    · rw [hverify] at hchecks
      cases hchecks
  case passes =>
    intro text hs
    obtain hs | ⟨-, _, _, h⟩ := hmem _ hs
    · exact (h.numbered _ hs).2.2 text rfl
    · cases h
  case reported =>
    intro hchecks
    refine ⟨body, t.scenario, ?_, isCutAtBracket_scenario t,
      fun s hs => (h.numbered s hs).2.1⟩
    rw [reports, if_pos hchecks]
  case unreported =>
    intro hchecks s hs
    obtain hs | ⟨hchecks', -⟩ := hmem s hs
    · exact (h.numbered s hs).2.1
    · rw [hchecks] at hchecks'
      cases hchecks'

end Backend

/-! ### Methods -/

/-- The headers of the blocks among pieces of code. -/
def Code.headers (code : List Code) : List String :=
  code.filterMap fun
    | .block header _ => some header
    | _ => none

def IsTestHeader (header : String) : Prop := "def test".toList <+: header.toList

instance : DecidablePred IsTestHeader := fun header =>
  inferInstanceAs (Decidable ("def test".toList <+: header.toList))

theorem isTestHeader_testHeader (index : Nat) : IsTestHeader (Backend.testHeader index) := by
  rw [IsTestHeader, Backend.testHeader, String.append_assoc, String.toList_append]
  exact List.prefix_append _ _

theorem Code.headers_append (cs ds : List Code) : headers (cs ++ ds) = headers cs ++ headers ds :=
  List.filterMap_append

theorem Heading.headers_fields (h : Heading) : Code.headers h.fields = [] := by
  have hfactory : Code.headers h.factoryField = [] := by
    rw [factoryField]
    cases h.needsFactory <;> rfl
  rw [fields, Code.headers_append, hfactory, List.append_nil]
  cases h.backend <;> rfl

theorem Heading.headers_setup (h : Heading) : Code.headers h.setup =
    (match h.backend with
      | .inProcess => []
      | .rpc | .rest => ["def setUpClass(cls):", "def tearDownClass(cls):"]) ++
    ["def setUp(self):"] := by
  rw [setup]
  cases h.backend <;> rfl

theorem Heading.not_isTestHeader (h : Heading) :
    ∀ header ∈ Code.headers h.classHead, ¬ IsTestHeader header := by
  have hconstructor : ∀ header ∈ Code.headers h.constructor, ¬ IsTestHeader header := by
    show ∀ header ∈ ["def __init__(self, method_name=\"runTest\"):"], ¬ IsTestHeader header
    decide
  have hsetup : ∀ header ∈ Code.headers h.setup, ¬ IsTestHeader header := by
    rw [headers_setup]
    cases h.backend <;> decide
  have hhelpers : ∀ header ∈ Code.headers h.helpers, ¬ IsTestHeader header := by
    rw [helpers]
    cases h.backend with
    | inProcess | rpc => exact List.forall_mem_nil _
    | rest => cases h.metaCheck <;> decide
  have hblank : ∀ header ∈ Code.headers [.blank 1], ¬ IsTestHeader header := List.forall_mem_nil _
  have hdocstring : ∀ header ∈ Code.headers [.docstring
      ["Test driver for the system under test: " ++ h.system ++ "."], .blank 1],
      ¬ IsTestHeader header := List.forall_mem_nil _
  have hfields : ∀ header ∈ Code.headers h.fields, ¬ IsTestHeader header := by
    rw [headers_fields]
    exact List.forall_mem_nil _
  rw [classHead]
  simp only [Code.headers_append, List.forall_mem_append]
  exact ⟨⟨⟨⟨⟨⟨hdocstring, hfields⟩, hblank⟩, hconstructor⟩, hblank⟩, hsetup⟩, hhelpers⟩

theorem Heading.filter_isTestHeader (h : Heading) {indices : List Nat} {methods : List Code}
    (hmethods : List.Forall₂ (fun index method => ∃ body,
      method = .block (Backend.testHeader index) body) indices methods) :
    (Code.headers (TestSuite.classMembers h methods)).filter (IsTestHeader ·) =
      indices.map Backend.testHeader := by
  have hheaders : Code.headers (methods.flatMap fun method => [.blank 1, method]) =
      indices.map Backend.testHeader := by
    induction hmethods with
    | nil => rfl
    | cons hmethod _ ih =>
      obtain ⟨body, rfl⟩ := hmethod
      rw [List.flatMap_cons, Code.headers_append, ih]
      rfl
  have hhead : (Code.headers h.classHead).filter (IsTestHeader ·) = [] := by
    simpa using h.not_isTestHeader
  have hall : (indices.map Backend.testHeader).filter (IsTestHeader ·) =
      indices.map Backend.testHeader := by
    simp [isTestHeader_testHeader]
  rw [TestSuite.classMembers, Code.headers_append, List.filter_append, hhead, hheaders, hall]
  rfl

/-- A suite that has a driver has one test method in it for each sequence, numbered from one. The
method is what is written for its steps, numbered from zero, one after the other, and what is
written for a step carries it out. -/
theorem TestSuite.steps_carried_out {s : TestSuite} {o : DriverOptions} {r : DependencyRecord}
    (h : (s.ground o).result = .ok r) :
    (s.ground o).text = Code.textAt 0 (s.emit o r).code ∧
    (s.emit o r).code = driverCode (s.heading o r) (s.methodCode o) ∧
    (Code.headers (classMembers (s.heading o r) (s.methodCode o))).filter (IsTestHeader ·) =
      (List.range' 1 s.sequences.length).map Backend.testHeader ∧
    ∀ qi ∈ s.sequences.zipIdx 1,
      (∃ summary, Backend.methodSummary qi.2 qi.1 = .ok summary ∧
        (o.backend.method (s.checksReports o) qi.2 qi.1).code =
          [.block (Backend.testHeader qi.2) (.docstring summary :: qi.1.steps.zipIdx.flatMap
            fun ti => (o.backend.step (s.checksReports o) ti.2 ti.1).code)]) ∧
      ∀ ti ∈ qi.1.steps.zipIdx, o.backend.CarriesOut (s.checksReports o) ti.2 ti.1
        (o.backend.step (s.checksReports o) ti.2 ti.1).code := by
  obtain ⟨hops, -, htext, hcode, hmethods⟩ := code_of_ground h
  refine ⟨htext, hcode, ?_, fun qi hqi => ?_⟩
  · have hindices : List.Forall₂ (fun index method => ∃ body,
        method = .block (Backend.testHeader index) body)
        ((s.sequences.zipIdx 1).map Prod.snd) (s.methodCode o) := by
      rw [List.forall₂_map_left_iff]
      exact hmethods.imp fun _ _ ⟨_, _, _, _, hmethod⟩ => ⟨_, hmethod⟩
    rw [Heading.filter_isTestHeader _ hindices, List.zipIdx_map_snd]
  · have hops := hops qi.1 (List.fst_mem_of_mem_zipIdx hqi)
    obtain ⟨method, hform⟩ := Itemwise.exists_forall₂_iff.1 ⟨_, hmethods⟩ qi hqi
    have hwrites := (Backend.method_writes_iff_form hops).2 hform
    obtain ⟨summary, parts, hsummary, hparts, hmethod⟩ := Backend.method_writes_iff.1 hwrites
    refine ⟨⟨summary, hsummary, ?_⟩, fun ti hti => ?_⟩
    · rw [hwrites.code_eq, hmethod, Emission.flatMap_code_eq hparts]
    · obtain ⟨part, hpart⟩ := Itemwise.exists_forall₂_iff.1 ⟨_, hparts⟩ ti hti
      have hop := hops ti.1 (List.fst_mem_of_mem_zipIdx hti)
      obtain ⟨body, hbody, rfl⟩ := (Backend.step_writes_iff hop).1 hpart
      rw [hpart.code_eq]
      exact hbody.carriesOut

/-- A step that puts items on a stack makes one call, and compares and reports after it. -/
theorem TestSuite.steps_carried_out_of_stack : ∃ r : DependencyRecord,
    (stack.ground (sampleOptions .rest)).result = .ok r ∧
    (Code.headers (classMembers (stack.heading (sampleOptions .rest) r)
      (stack.methodCode (sampleOptions .rest)))).filter (IsTestHeader ·) = ["def test1(self):"] ∧
    Backend.CarriesOut .rest true 1 stackPush (Backend.step .rest true 1 stackPush).code ∧
    (∃ c, (Code.statementsIn (Backend.step .rest true 1 stackPush).code).flatMap
      Statement.calls = [c]) ∧
    (Code.statementsIn (Backend.step .rest true 1 stackPush).code).map Statement.text =
      ["response1 = self.call_method('push/%5Ba%2C%20b%5D/')",
        "size1: int = TypeAdapter(int).validate_json(response1)", "# Verify invocation step #1",
        "self.assertEqual(2, size1)", "self.assertEqual('push/ok', self.get_scenario())",
        "self.assertEqual('Filled', self.get_state())"] := by
  obtain ⟨r, h⟩ := exists_ground_stack .rest
  obtain ⟨-, -, hheaders, hmethods⟩ := steps_carried_out h
  obtain ⟨-, hsteps⟩ := hmethods _ List.mem_cons_self
  have hpush := hsteps (stackPush, 1) (List.mem_cons_of_mem _ List.mem_cons_self)
  obtain ⟨_, c, -, -, hcall⟩ := hpush.called (by decide)
  exact ⟨r, h, hheaders, hpush, ⟨c, hcall⟩, by decide +kernel⟩

end Grounding

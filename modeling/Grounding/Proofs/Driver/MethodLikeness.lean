import Grounding.Proofs.Driver.Grounded
import Grounding.Proofs.Driver.Terms

/-!
# Test methods that differ in free texts

The states and the texts of expected failures are free. In a test method they stand in its docstring
and in the literals of its checks. So the methods of sequences that differ in such texts only are
alike, if the names of operations and types are identifiers.
-/

namespace Grounding

open Lexing Emission

/-! ### Sequences without their free texts -/

def Parameter.withoutContent (p : Parameter) : Parameter := { p with content := none }

def Operation.withoutTexts (o : Operation) : Operation :=
  { o with failures := o.failures.map Parameter.withoutContent }

/-- A step without its state and the texts of its failures. -/
def TestStep.withoutTexts (t : TestStep) : TestStep :=
  { t with state := "", operation := t.operation.map Operation.withoutTexts }

/-- A sequence without the states in it and the texts of its failures. -/
def TestSequence.withoutTexts (q : TestSequence) : TestSequence :=
  { q with state := "", steps := q.steps.map TestStep.withoutTexts }

/-- The name of an operation and those of the external types of its parameters are identifiers. -/
def Operation.Named (o : Operation) : Prop :=
  IsDottedName o.name ∧
    ∀ side, ∀ p ∈ o.parameters side, ∀ d, p.descriptor = .ok d → Names d

theorem TestStep.kind_withoutTexts (t : TestStep) : t.withoutTexts.kind = t.kind := by
  have hfailure : ∀ o : Operation, o.withoutTexts.isFailure = o.isFailure := fun o => by
    rw [Operation.isFailure, Operation.withoutTexts, List.any_map]
    rfl
  have hany : (t.operation.map Operation.withoutTexts).any Operation.isFailure =
      t.operation.any Operation.isFailure := by
    cases t.operation with
    | none => rfl
    | some o => exact hfailure o
  show (if t.name == initialName then StepKind.initial
    else if (t.operation.map Operation.withoutTexts).any Operation.isFailure then .failure
    else .normal) = t.kind
  rw [hany]
  rfl

namespace Backend

variable {b : Backend} {i : Nat} {m : Bool} {o o' : Operation} {t t' : TestStep}
  {q q' : TestSequence} {c : Call}

/-! ### Calls and outputs -/

theorem alikeCode_statements {depth : Nat} {ss : List Statement}
    (h : ∀ s ∈ ss, AlikeStatement s s) :
    AlikeCode false depth (ss.map .statement) (ss.map .statement) := by
  induction ss with
  | nil => exact .nil
  | cons s ss ih =>
    rw [List.forall_mem_cons] at h
    exact (AlikeCode.cons (.statement h.1 (by decide)) (ih h.2)).silent

theorem alikeEmission_self {spoken : Bool} {e : Emission Unit}
    (h : ∀ code, e.Writes code () → ∀ depth, AlikeCode spoken depth code code) :
    AlikeEmission spoken e e := by
  refine ⟨rfl, fun _ hresult depth => ?_⟩
  obtain ⟨code, hcode⟩ := exists_writes_iff.2 hresult
  rw [hcode.code_eq]
  exact h code hcode depth

theorem Receives.alike {ss : List Statement} (hnamed : o.Named) (hc : b.Invokes o c)
    (h : Receives c i b o.outputs ss) : ∀ s ∈ ss, AlikeStatement s s := by
  have hcall := alikeTo_call hnamed.1 hc
  have hfirst : ∀ {v : Variable} {type : Option Descriptor}, (∀ d ∈ type, Names d) →
      AlikeStatement (.assign v type (.call c)) (.assign v type (.call c)) := fun htype =>
    alikeStatement_assign htype hcall (by decide) nofun
  have htypes : ∀ p ∈ o.outputs, ∀ d, p.descriptor = .ok d → Names d := hnamed.2 .output
  generalize o.outputs = ps at h htypes
  cases h with
  | nothing _ =>
    rw [List.forall_mem_singleton]
    exact alikeStatement_invoke hnamed.1 hc
  | one _ hd =>
    rw [List.forall_mem_singleton]
    refine hfirst ?_
    rintro _ ⟨⟩
    exact htypes _ (List.mem_singleton_self _) _ hd
  | several _ =>
    rw [List.forall_mem_singleton]
    exact hfirst nofun
  | items _ =>
    rw [List.forall_mem_singleton]
    exact alikeStatement_assign nofun (alikeTo_callItems hnamed.1 hc) (by decide) nofun
  | response =>
    rw [List.forall_mem_singleton]
    exact hfirst nofun
  | decoded hd =>
    have hnames := htypes _ (List.mem_singleton_self _) _ hd
    rw [List.forall_mem_cons, List.forall_mem_singleton]
    refine ⟨hfirst nofun, alikeStatement_assign ?_ (alikeTo_decoder hnames _) (by decide) nofun⟩
    rintro _ ⟨⟩
    exact hnames
  | decodedList _ hd =>
    have hnames := htypes _ List.mem_cons_self _ hd
    rw [List.forall_mem_cons, List.forall_mem_singleton]
    exact ⟨hfirst nofun,
      alikeStatement_assign nofun (alikeTo_listDecoder hnames _) (by decide) nofun⟩

theorem Compares.alike {ps : List Parameter} {ss : List Statement} (h : Compares i b ps ss) :
    ∀ s ∈ ss, AlikeStatement s s := by
  cases h with
  | nothing _ => exact nofun
  | noResponse =>
    rw [List.forall_mem_singleton]
    exact alikeStatement_assertNone _
  | one hexpected =>
    rw [List.forall_mem_singleton]
    exact alikeStatement_assertEqual _ (alike_operand hexpected)
  | several _ hexpected =>
    rw [List.forall_mem_cons, List.forall_mem_singleton]
    exact ⟨alikeStatement_assign nofun (alikeTo_list hexpected) (by decide) nofun,
      alikeStatement_assertSequenceEqual _ _⟩

/-! ### Steps -/

theorem alike_stepComment {what : String} (h : what.toList.all isInert = true) :
    AlikeEmission false (.statement (stepComment what i)) (.statement (stepComment what i)) :=
  .statement (alikeLine_stepComment h i) (by decide)

theorem alike_initialStep (verify : Bool) :
    AlikeEmission false (b.initialStep i verify) (b.initialStep i verify) := by
  cases verify with
  | false => exact .pure ()
  | true =>
    have hready : areFixed ((b.readyFields.map .assertPresent).map .statement) = true := by
      cases b <;> decide
    refine .write fun depth => ?_
    have hcomment : AlikeCode false depth [.statement (stepComment "service reset" i)]
        [.statement (stepComment "service reset" i)] :=
      .statement (alikeLine_stepComment (by decide) i) (by decide)
    exact (hcomment.cons (.fixed hready)).silent

theorem eq_of_withoutTexts (h : o.withoutTexts = o'.withoutTexts) :
    o'.name = o.name ∧ o'.inputs = o.inputs ∧ o'.outputs = o.outputs := by
  have hname := congrArg Operation.name h
  have hinputs := congrArg Operation.inputs h
  have houtputs := congrArg Operation.outputs h
  exact ⟨hname.symm, hinputs.symm, houtputs.symm⟩

theorem call_congr (h : o.withoutTexts = o'.withoutTexts) : b.call o' = b.call o := by
  obtain ⟨hname, hinputs, -⟩ := eq_of_withoutTexts h
  cases b <;> rw [call, call, hname, hinputs]

theorem normalStep_congr (h : o.withoutTexts = o'.withoutTexts) (verify : Bool) :
    b.normalStep i verify o' = b.normalStep i verify o := by
  obtain ⟨-, -, houtputs⟩ := eq_of_withoutTexts h
  rw [normalStep, normalStep, call_congr h, houtputs]

theorem alike_normalStep {verify : Bool} (hnamed : o.Named)
    (h : o.withoutTexts = o'.withoutTexts) :
    AlikeEmission false (b.normalStep i verify o) (b.normalStep i verify o') := by
  rw [normalStep_congr h]
  refine .calculate fun c hc => ?_
  have hinvokes := call_eq_ok_iff.1 hc
  cases verify with
  | false =>
    have hcall := alikeStatement_invoke hnamed.1 hinvokes
    exact (AlikeEmission.statement hcall (by decide)).silent
  | true =>
    have hreceive : AlikeEmission false (b.receive c i o.outputs) (b.receive c i o.outputs) := by
      refine alikeEmission_self fun code hcode depth => ?_
      obtain ⟨ss, hreceives, rfl⟩ := receive_writes_iff.1 hcode
      exact alikeCode_statements (hreceives.alike hnamed hinvokes)
    have hcompare : AlikeEmission false (b.assertOutputs i o.outputs)
        (b.assertOutputs i o.outputs) := by
      refine alikeEmission_self fun code hcode depth => ?_
      obtain ⟨ss, hcompares, rfl⟩ := assertOutputs_writes_iff.1 hcode
      exact alikeCode_statements hcompares.alike
    exact hreceive.bind fun _ _ => (alike_stepComment (by decide)).bind fun _ _ => hcompare

theorem alike_failureStep {verify : Bool} (hnamed : o.Named)
    (h : o.withoutTexts = o'.withoutTexts) :
    AlikeEmission false (b.failureStep i verify o) (b.failureStep i verify o') := by
  have htry : AlikeEmission true
      (.block "try:" do
        let c ← .calculate (b.call o)
        .statement (.invoke c))
      (.block "try:" do
        let c ← .calculate (b.call o')
        .statement (.invoke c)) := by
    rw [call_congr h]
    have hheader : IsFixedLine "try:".toList (some true) := by decide
    refine .block hheader.alike (.calculate fun c hc => ?_)
    exact .statement (alikeStatement_invoke hnamed.1 (call_eq_ok_iff.1 hc)) (by decide)
  have hexcept : ∀ s s' : Statement, AlikeStatement s s' → AlikeEmission true
      (.block "except Exception as ex:" (.statement s))
      (.block "except Exception as ex:" (.statement s')) := by
    intro s s' hs
    have hheader : IsFixedLine "except Exception as ex:".toList (some true) := by decide
    exact .block hheader.alike (.statement hs (by decide))
  cases verify with
  | false =>
    have hpass : IsFixedLine passLine.toList (some false) := by decide
    have hguard := hexcept (.plain passLine) (.plain passLine) hpass.alike
    exact (htry.bind fun _ _ => hguard.bind fun _ _ => .pure ()).silent
  | true =>
    have hheader : IsFixedLine "else:".toList (some true) := by decide
    have hfail : ∀ s s' : String, AlikeEmission true
        (.block "else:" (.statements [stepComment "exception" i, .fail s]))
        (.block "else:" (.statements [stepComment "exception" i, .fail s'])) := by
      intro s s'
      have hcomment : AlikeLine (stepComment "exception" i).text.toList
          (stepComment "exception" i).text.toList none := alikeLine_stepComment (by decide) i
      refine .block hheader.alike (.write fun depth => ?_)
      have hfails : AlikeCode true depth [.statement (.fail s)] [.statement (.fail s')] :=
        .statement (alikeStatement_fail s s') (by decide)
      exact (AlikeCode.statement hcomment (by decide)).cons hfails
    have hmessage := hexcept _ _
      (alikeStatement_assertMessage (expectedMessage o) (expectedMessage o'))
    exact (htry.bind fun _ _ => hmessage.bind fun _ _ => hfail _ _).silent

theorem alike_assertReports (t t' : TestStep) :
    AlikeEmission false (b.assertReports t) (b.assertReports t') := by
  have hgetters : b.getters.1.toList.all isInert = true ∧
      b.getters.2.toList.all isInert = true := by cases b <;> decide
  refine .write fun depth => ?_
  have hreport : ∀ {getter : String} (s s' : String), getter.toList.all isInert = true →
      AlikeCode true depth [.statement (.assertReport s getter)]
        [.statement (.assertReport s' getter)] :=
    fun s s' hgetter => .statement (alikeStatement_assertReport s s' hgetter) (by decide)
  have hscenario := hreport t.scenario t'.scenario hgetters.1
  exact (hscenario.cons (hreport t.state t'.state hgetters.2)).silent

theorem alike_step (hnamed : ∀ o, t.operation = some o → o.Named)
    (h : t.withoutTexts = t'.withoutTexts) :
    AlikeEmission false (b.step m i t) (b.step m i t') := by
  have hkind : t'.kind = t.kind := by
    rw [← t.kind_withoutTexts, h, t'.kind_withoutTexts]
  have hverify : t'.verify = t.verify := (congrArg TestStep.verify h).symm
  have hoperation : t.operation.map Operation.withoutTexts =
      t'.operation.map Operation.withoutTexts := congrArg TestStep.operation h
  have hreports : AlikeEmission false
      (if t.verify && m then b.assertReports t else Pure.pure ())
      (if t.verify && m then b.assertReports t' else Pure.pure ()) := by
    split
    · exact alike_assertReports t t'
    · exact .pure ()
  rw [step, step, hkind, hverify]
  cases ho : t.operation with
  | none =>
    have ho' : t'.operation = none := by simpa [ho] using hoperation.symm
    rw [ho']
    cases t.kind with
    | initial => exact (alike_initialStep t.verify).bind fun _ _ => hreports
    | normal | failure => exact .pure ()
  | some o =>
    obtain ⟨o', ho', hsame⟩ : ∃ o', t'.operation = some o' ∧ o.withoutTexts = o'.withoutTexts := by
      simpa [ho, eq_comm] using hoperation.symm
    rw [ho']
    cases t.kind with
    | initial => exact (alike_initialStep t.verify).bind fun _ _ => hreports
    | normal => exact (alike_normalStep (hnamed o ho) hsame).bind fun _ _ => hreports
    | failure => exact (alike_failureStep (hnamed o ho) hsame).bind fun _ _ => hreports

/-! ### Methods -/

theorem alike_stepsFrom {ts ts' : List TestStep}
    (hnamed : ∀ t ∈ ts, ∀ o, t.operation = some o → o.Named)
    (h : ts.map TestStep.withoutTexts = ts'.map TestStep.withoutTexts) :
    AlikeEmission false (b.stepsFrom m i ts) (b.stepsFrom m i ts') := by
  rw [Itemwise.map_eq_map_iff_forall₂] at h
  induction h generalizing i with
  | nil => exact .pure ()
  | cons ht _ ih =>
    rw [List.forall_mem_cons] at hnamed
    exact (alike_step hnamed.1 ht).bind fun _ _ => ih hnamed.2

theorem alikeLine_testHeader (index : Nat) :
    AlikeLine (testHeader index).toList (testHeader index).toList (some true) := by
  rw [testHeader]
  simp only [String.toList_append, List.append_assoc]
  refine alikeLine_of_alikeTo (by decide) (by decide) (?_ : AlikeTo (.code ':') _ _) (by decide)
  exact .after (all_isInert_nat index) (.inert (by decide) (by decide))

theorem alike_method (hnamed : ∀ t ∈ q.steps, ∀ o, t.operation = some o → o.Named)
    (h : q.withoutTexts = q'.withoutTexts) (index : Nat) :
    AlikeEmission true (b.method m index q) (b.method m index q') := by
  have hsteps : q.steps.map TestStep.withoutTexts = q'.steps.map TestStep.withoutTexts :=
    congrArg TestSequence.steps h
  have htest : q.test = q'.test := (TestSequence.mk.inj h).1
  have hpath : q.path = q'.path := (TestSequence.mk.inj h).2.2.1
  have hnumber : sequenceNumber index q = sequenceNumber index q' := by
    rw [sequenceNumber, sequenceNumber, htest]
  refine .block (alikeLine_testHeader index) ?_
  rw [methodSummary, methodSummary, hnumber, hpath]
  -- Whether the numbers can be written does not depend on free texts.
  generalize sequenceNumber index q' = number, integerText q'.path = path
  cases number with
  | error _ => exact ⟨rfl, nofun⟩
  | ok number =>
    cases path with
    | error _ => exact ⟨rfl, nofun⟩
    | ok path =>
      have hdocstring : AlikeEmission true (.write [.docstring (summaryLines number path q)])
          (.write [.docstring (summaryLines number path q')]) :=
        .write fun _ => .docstring (by simp [summaryLines]) (by simp [summaryLines])
      exact hdocstring.bind fun _ _ => alike_stepsFrom hnamed hsteps

theorem alike_methodsFrom {qs qs' : List TestSequence}
    (hnamed : ∀ q ∈ qs, ∀ t ∈ q.steps, ∀ o, t.operation = some o → o.Named)
    (h : qs.map TestSequence.withoutTexts = qs'.map TestSequence.withoutTexts) :
    AlikeEmission false (b.methodsFrom m i qs) (b.methodsFrom m i qs') := by
  rw [Itemwise.map_eq_map_iff_forall₂] at h
  induction h generalizing i with
  | nil => exact .pure ()
  | cons hq _ ih =>
    rw [List.forall_mem_cons] at hnamed
    have hblank : AlikeEmission false (.write [.blank 1]) (.write [.blank 1]) :=
      .write fun _ => .blank 1
    exact hblank.bind fun _ _ => (alike_method hnamed.1 hq i).silent.bind fun _ _ => ih hnamed.2

end Backend

end Grounding

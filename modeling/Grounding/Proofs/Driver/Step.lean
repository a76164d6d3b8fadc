import Grounding.Driver.Ground
import Grounding.Proofs.Descriptor.Exactness
import Grounding.Proofs.Driver.Code
import Grounding.Proofs.Driver.Emission

/-!
# The code of a step

A step is written in one of six forms, by its kind and by whether it is verified. A verified step
that is expected to return takes up the outputs of its call, and then compares them; both depend on
the grounding and on how many outputs there are. What is known of test methods rests on these forms.
-/

namespace Grounding

/-- The line for a failure that is not checked. -/
def passLine : String := "pass  # Exception has already been verified."

/-- Statements without a call, a variable or a value. -/
inductive Statement.IsFixed : Statement → Prop
  | pass : IsFixed (.plain passLine)
  | comment (text : String) : IsFixed (.comment text)
  | assertPresent (field : String) : IsFixed (.assertPresent field)
  | assertMessage (text : String) : IsFixed (.assertMessage text)
  | fail (text : String) : IsFixed (.fail text)

theorem Parameter.descriptor_eq_ok_iff {p : Parameter} {d : Descriptor} :
    p.descriptor = .ok d ↔ Descriptor.Derives .bracket p.type.toList d :=
  Outcome.mapError_eq_ok_iff.trans Descriptor.parseChars_eq_ok_iff

theorem Parameter.descriptor_of_primitive {p : Parameter} {q : Primitive} (h : p.type = q.name) :
    p.descriptor = .ok (.primitive q) := by
  have hname : Text.strip q.name.toList = q.name.toList := by cases q <;> decide
  exact descriptor_eq_ok_iff.2 (.primitive (h ▸ hname))

theorem Parameter.isLiteralText_of_primitive {p : Parameter} {q : Primitive} (h : p.type = q.name) :
    isLiteralText p.type = true := by
  rw [h]
  cases q <;> decide

theorem Call.text_direct (operation : String) (args : List Operand) :
    (Call.direct operation args).text =
      "self.system." ++ operation ++ "(" ++ commaText (args.map Operand.text) ++ ")" := rfl

theorem Call.text_path (operation : String) (literals : List String) :
    (Call.path operation literals).text =
      "self.call_method(" ++ Text.quoted (Call.pathText operation literals) ++ ")" := rfl

namespace Backend

open Emission

variable {b : Backend} {c : Call} {i : Nat} {code : List Code}

/-! ### Calls -/

/-- A call of an operation has an argument, or a segment of its path, for each input in order. -/
inductive Invokes (o : Operation) : Backend → Call → Prop
  | direct {b : Backend} {args : List Operand} : b ≠ .rest →
      List.Forall₂ (fun p a => p.operand = .ok a) o.inputs args →
      Invokes o b (.direct o.name args)
  | path {literals : List String} :
      List.Forall₂ (fun p s => ∃ x, p.evaluate = .ok x ∧ x.literal = s) o.inputs literals →
      Invokes o .rest (.path o.name literals)

theorem call_eq_ok_iff {o : Operation} : b.call o = .ok c ↔ Invokes o b c := by
  have hliteral : ∀ (p : Parameter) (s : String), p.evaluate.map Value.literal = .ok s ↔
      ∃ x, p.evaluate = .ok x ∧ x.literal = s := fun _ _ => Outcome.exceptMap_eq_ok_iff
  have hdirect : (o.inputs.mapM Parameter.operand).map (.direct o.name) = .ok c ↔
      ∃ args, List.Forall₂ (fun p a => p.operand = .ok a) o.inputs args ∧
        .direct o.name args = c := by
    rw [Outcome.exceptMap_eq_ok_iff]
    simp only [Outcome.mapM_eq_ok_iff]
  cases b with
  | inProcess | rpc =>
    refine hdirect.trans ⟨?_, fun h => ?_⟩
    · rintro ⟨args, hargs, rfl⟩
      exact .direct nofun hargs
    · cases h with
      | direct _ hargs => exact ⟨_, hargs, rfl⟩
  | rest =>
    rw [call, Outcome.exceptMap_eq_ok_iff]
    simp only [Outcome.mapM_eq_ok_iff, hliteral]
    constructor
    · rintro ⟨literals, hliterals, rfl⟩
      exact .path hliterals
    · intro h
      cases h with
      | direct hne _ => exact absurd rfl hne
      | path hliterals => exact ⟨_, hliterals, rfl⟩

/-! ### Outputs -/

/-- The statements that take up the outputs of a call. -/
inductive Receives (c : Call) (i : Nat) : Backend → List Parameter → List Statement → Prop
  | nothing {b : Backend} : b ≠ .rest → Receives c i b [] [.invoke c]
  | one {b : Backend} {p : Parameter} {d : Descriptor} : b ≠ .rest → p.descriptor = .ok d →
      Receives c i b [p] [.assign (.receiver p.name i) (some d) (.call c)]
  | several {ps : List Parameter} : 2 ≤ ps.length →
      Receives c i .inProcess ps [.assign (.actual i) none (.call c)]
  | items {ps : List Parameter} : 2 ≤ ps.length →
      Receives c i .rpc ps [.assign (.actual i) none (.callItems c)]
  | response : Receives c i .rest [] [.assign (.response i) none (.call c)]
  | decoded {p : Parameter} {d : Descriptor} : p.descriptor = .ok d →
      Receives c i .rest [p]
        [.assign (.response i) none (.call c),
          .assign (.receiver p.name i) (some d) (.decoded (decoder d) (.response i))]
  | decodedList {p : Parameter} {ps : List Parameter} {d : Descriptor} : ps ≠ [] →
      p.descriptor = .ok d →
      Receives c i .rest (p :: ps)
        [.assign (.response i) none (.call c),
          .assign (.actual i) none (.decoded (listDecoder d) (.response i))]

theorem receive_writes_iff {ps : List Parameter} : (b.receive c i ps).Writes code () ↔
    ∃ ss, Receives c i b ps ss ∧ code = ss.map .statement := by
  constructor
  · intro h
    rcases ps with _ | ⟨p, _ | ⟨q, ps⟩⟩
    · cases b with
      | inProcess | rpc => exact ⟨_, .nothing nofun, statement_writes_iff.1 h⟩
      | rest =>
        obtain ⟨rest, hrest, rfl⟩ := write_bind_writes_iff.1 h
        obtain ⟨rfl, -⟩ := pure_writes_iff.1 hrest
        exact ⟨_, .response, rfl⟩
    · cases b with
      | inProcess | rpc =>
        obtain ⟨d, hd, hwrites⟩ := calculate_bind_writes_iff.1 h
        exact ⟨_, .one nofun hd, statement_writes_iff.1 hwrites⟩
      | rest =>
        obtain ⟨rest, hrest, rfl⟩ := write_bind_writes_iff.1 h
        obtain ⟨d, hd, hwrites⟩ := calculate_bind_writes_iff.1 hrest
        rw [statement_writes_iff.1 hwrites]
        exact ⟨_, .decoded hd, rfl⟩
    · have hseveral : 2 ≤ (p :: q :: ps).length := Nat.le_add_left 2 ps.length
      cases b with
      | inProcess => exact ⟨_, .several hseveral, statement_writes_iff.1 h⟩
      | rpc => exact ⟨_, .items hseveral, statement_writes_iff.1 h⟩
      | rest =>
        obtain ⟨rest, hrest, rfl⟩ := write_bind_writes_iff.1 h
        obtain ⟨d, hd, hwrites⟩ := calculate_bind_writes_iff.1 hrest
        rw [statement_writes_iff.1 hwrites]
        exact ⟨_, .decodedList nofun hd, rfl⟩
  · rintro ⟨ss, h, rfl⟩
    cases h with
    | nothing hne =>
      cases b with
      | inProcess | rpc => rfl
      | rest => exact absurd rfl hne
    | one hne hd =>
      cases b with
      | inProcess | rpc => exact calculate_bind_writes_iff.2 ⟨_, hd, rfl⟩
      | rest => exact absurd rfl hne
    | several hseveral | items hseveral =>
      rcases ps with _ | ⟨p, _ | ⟨q, ps⟩⟩
      · exact absurd hseveral (by decide)
      · exact absurd hseveral (by simp)
      · rfl
    | response => rfl
    | decoded hd =>
      exact write_bind_writes_iff.2 ⟨_, calculate_bind_writes_iff.2 ⟨_, hd, rfl⟩, rfl⟩
    | @decodedList p ps d hne hd =>
      cases ps with
      | nil => exact absurd rfl hne
      | cons q ps =>
        exact write_bind_writes_iff.2 ⟨_, calculate_bind_writes_iff.2 ⟨_, hd, rfl⟩, rfl⟩

/-- The statements that compare the outputs of a call with what is expected of them. -/
inductive Compares (i : Nat) : Backend → List Parameter → List Statement → Prop
  | nothing {b : Backend} : b ≠ .rest → Compares i b [] []
  | noResponse : Compares i .rest [] [.assertNone (.response i)]
  | one {b : Backend} {p : Parameter} {expected : Operand} : p.operand = .ok expected →
      Compares i b [p] [.assertEqual expected (.receiver p.name i)]
  | several {b : Backend} {ps : List Parameter} {expected : List Operand} : 2 ≤ ps.length →
      List.Forall₂ (fun p a => p.operand = .ok a) ps expected →
      Compares i b ps
        [.assign (.expect i) none (.list expected),
          .assertSequenceEqual (.expect i) (.actual i)]

theorem assertOutputs_writes_iff {ps : List Parameter} : (b.assertOutputs i ps).Writes code () ↔
    ∃ ss, Compares i b ps ss ∧ code = ss.map .statement := by
  constructor
  · intro h
    rcases ps with _ | ⟨p, _ | ⟨q, ps⟩⟩
    · cases b with
      | inProcess | rpc => exact ⟨_, .nothing nofun, (pure_writes_iff.1 h).1⟩
      | rest => exact ⟨_, .noResponse, statement_writes_iff.1 h⟩
    · obtain ⟨expected, hexpected, hwrites⟩ := calculate_bind_writes_iff.1 h
      exact ⟨_, .one hexpected, statement_writes_iff.1 hwrites⟩
    · obtain ⟨expected, hexpected, hwrites⟩ := calculate_bind_writes_iff.1 h
      obtain ⟨rest, hrest, rfl⟩ := write_bind_writes_iff.1 hwrites
      rw [statement_writes_iff.1 hrest]
      exact ⟨_, .several (Nat.le_add_left 2 ps.length) (Outcome.mapM_eq_ok_iff.1 hexpected), rfl⟩
  · rintro ⟨ss, h, rfl⟩
    cases h with
    | nothing hne =>
      cases b with
      | inProcess | rpc => rfl
      | rest => exact absurd rfl hne
    | noResponse => rfl
    | one hexpected => exact calculate_bind_writes_iff.2 ⟨_, hexpected, rfl⟩
    | several hseveral hexpected =>
      rcases ps with _ | ⟨p, _ | ⟨q, ps⟩⟩
      · exact absurd hseveral (by decide)
      · exact absurd hseveral (by simp)
      · refine calculate_bind_writes_iff.2 ⟨_, Outcome.mapM_eq_ok_iff.2 hexpected, ?_⟩
        exact write_bind_writes_iff.2 ⟨_, statement_writes_iff.2 rfl, rfl⟩

/-! ### Steps -/

def reports (b : Backend) (metaCheck : Bool) (t : TestStep) : List Code :=
  if t.verify && metaCheck then
    [.statement (.assertReport t.scenario b.getters.1),
      .statement (.assertReport t.state b.getters.2)]
  else []

theorem reports_eq_nil {metaCheck : Bool} {t : TestStep} (h : (t.verify && metaCheck) = false) :
    reports b metaCheck t = [] := by
  rw [reports, h]
  rfl

theorem isReport_of_mem_reports {metaCheck : Bool} {t : TestStep} {s : Statement}
    (hs : s ∈ Code.statementsIn (reports b metaCheck t)) :
    (t.verify && metaCheck) = true ∧ ∃ expected getter, s = .assertReport expected getter := by
  cases hchecks : t.verify && metaCheck with
  | false =>
    rw [reports_eq_nil hchecks] at hs
    cases hs
  | true =>
    rw [reports, if_pos hchecks] at hs
    rcases hs with _ | ⟨_, _ | ⟨_, hs⟩⟩
    · exact ⟨rfl, _, _, rfl⟩
    · exact ⟨rfl, _, _, rfl⟩
    · cases hs

/-- The forms in which a step is written, apart from reports. -/
inductive StepForm (b : Backend) (i : Nat) (t : TestStep) : List Code → Prop
  | passed : t.kind = .initial → t.verify = false → StepForm b i t []
  | ready : t.kind = .initial → t.verify = true →
      StepForm b i t
        ((stepComment "service reset" i :: b.readyFields.map .assertPresent).map .statement)
  | invoked {o : Operation} {c : Call} : t.kind = .normal → t.verify = false →
      t.operation = some o → Invokes o b c → StepForm b i t [.statement (.invoke c)]
  | compared {o : Operation} {c : Call} {received expected : List Statement} :
      t.kind = .normal → t.verify = true → t.operation = some o → Invokes o b c →
      Receives c i b o.outputs received → Compares i b o.outputs expected →
      StepForm b i t ((received ++ stepComment "invocation" i :: expected).map .statement)
  | tolerated {o : Operation} {c : Call} : t.kind = .failure → t.verify = false →
      t.operation = some o → Invokes o b c →
      StepForm b i t
        [.block "try:" [.statement (.invoke c)],
          .block "except Exception as ex:"
            [.statement (.plain passLine)]]
  | expected {o : Operation} {c : Call} : t.kind = .failure → t.verify = true →
      t.operation = some o → Invokes o b c →
      StepForm b i t
        [.block "try:" [.statement (.invoke c)],
          .block "except Exception as ex:" [.statement (.assertMessage (expectedMessage o))],
          .block "else:" ([stepComment "exception" i,
            .fail ("Expected an exception: " ++ expectedMessage o)].map .statement)]

variable {t : TestStep} {o : Operation}

theorem StepForm.mem_cases (h : StepForm b i t code) {s : Statement}
    (hs : s ∈ Code.statementsIn code) :
    (∃ o c, t.operation = some o ∧ Invokes o b c ∧ s = .invoke c) ∨
    (∃ o c ss, t.operation = some o ∧ Invokes o b c ∧ Receives c i b o.outputs ss ∧ s ∈ ss) ∨
    (∃ o ss, t.operation = some o ∧ Compares i b o.outputs ss ∧ s ∈ ss) ∨ s.IsFixed := by
  cases h with
  | passed => cases hs
  | ready =>
    rw [Code.statementsIn_map_statement, List.mem_cons, List.mem_map] at hs
    obtain rfl | ⟨field, -, rfl⟩ := hs
    · exact .inr (.inr (.inr (.comment _)))
    · exact .inr (.inr (.inr (.assertPresent _)))
  | invoked _ _ ho hc =>
    obtain rfl := List.mem_singleton.1 hs
    exact .inl ⟨_, _, ho, hc, rfl⟩
  | compared _ _ ho hc hreceived hexpected =>
    rw [Code.statementsIn_map_statement, List.mem_append, List.mem_cons] at hs
    obtain hs | rfl | hs := hs
    · exact .inr (.inl ⟨_, _, _, ho, hc, hreceived, hs⟩)
    · exact .inr (.inr (.inr (.comment _)))
    · exact .inr (.inr (.inl ⟨_, _, ho, hexpected, hs⟩))
  | @tolerated o c _ _ ho hc =>
    have hs : s ∈ [.invoke c, .plain passLine] := hs
    rw [List.mem_pair] at hs
    obtain rfl | rfl := hs
    · exact .inl ⟨_, _, ho, hc, rfl⟩
    · exact .inr (.inr (.inr .pass))
  | @expected o c _ _ ho hc =>
    have hs : s ∈ [.invoke c, .assertMessage (expectedMessage o), stepComment "exception" i,
      .fail ("Expected an exception: " ++ expectedMessage o)] := hs
    simp only [List.mem_cons, List.not_mem_nil, or_false] at hs
    obtain rfl | rfl | rfl | rfl := hs
    · exact .inl ⟨_, _, ho, hc, rfl⟩
    · exact .inr (.inr (.inr (.assertMessage _)))
    · exact .inr (.inr (.inr (.comment _)))
    · exact .inr (.inr (.inr (.fail _)))

theorem initialStep_writes_iff (hkind : t.kind = .initial) :
    (b.initialStep i t.verify).Writes code () ↔ StepForm b i t code := by
  constructor
  · intro h
    cases hverify : t.verify with
    | false =>
      rw [hverify] at h
      rw [(pure_writes_iff.1 h).1]
      exact .passed hkind hverify
    | true =>
      rw [hverify] at h
      rw [statements_writes_iff.1 h]
      exact .ready hkind hverify
  · intro h
    cases h with
    | passed _ hverify =>
      rw [hverify]
      rfl
    | ready _ hverify =>
      rw [hverify]
      rfl
    | invoked hk | compared hk | tolerated hk | expected hk => exact nomatch hkind.symm.trans hk

theorem normalStep_writes_iff (hkind : t.kind = .normal) (ho : t.operation = some o) :
    (b.normalStep i t.verify o).Writes code () ↔ StepForm b i t code := by
  rw [normalStep, calculate_bind_writes_iff]
  constructor
  · rintro ⟨c, hc, h⟩
    cases hverify : t.verify with
    | false =>
      rw [hverify] at h
      rw [statement_writes_iff.1 h]
      exact .invoked hkind hverify ho (call_eq_ok_iff.1 hc)
    | true =>
      rw [hverify] at h
      obtain ⟨first, _, rest, hfirst, hrest, rfl⟩ := bind_writes_iff.1 h
      obtain ⟨received, hreceived, rfl⟩ := receive_writes_iff.1 hfirst
      obtain ⟨last, hlast, rfl⟩ := write_bind_writes_iff.1 hrest
      obtain ⟨expected, hexpected, rfl⟩ := assertOutputs_writes_iff.1 hlast
      have hform := StepForm.compared hkind hverify ho (call_eq_ok_iff.1 hc) hreceived hexpected
      rwa [List.map_append] at hform
  · intro h
    cases h with
    | invoked _ hverify ho' hc =>
      obtain rfl := Option.some.inj (ho.symm.trans ho')
      exact ⟨_, call_eq_ok_iff.2 hc, by rw [hverify]; rfl⟩
    | compared _ hverify ho' hc hreceived hexpected =>
      obtain rfl := Option.some.inj (ho.symm.trans ho')
      refine ⟨_, call_eq_ok_iff.2 hc, ?_⟩
      rw [hverify, List.map_append]
      refine bind_writes_iff.2 ⟨_, (), _, receive_writes_iff.2 ⟨_, hreceived, rfl⟩, ?_, rfl⟩
      exact write_bind_writes_iff.2 ⟨_, assertOutputs_writes_iff.2 ⟨_, hexpected, rfl⟩, rfl⟩
    | passed hk | ready hk | tolerated hk | expected hk => exact nomatch hkind.symm.trans hk

theorem failureStep_writes_iff (hkind : t.kind = .failure) (ho : t.operation = some o) :
    (b.failureStep i t.verify o).Writes code () ↔ StepForm b i t code := by
  rw [failureStep, bind_writes_iff]
  constructor
  · rintro ⟨_, _, rest, htry, hrest, rfl⟩
    obtain ⟨body, hbody, rfl⟩ := block_writes_iff.1 htry
    obtain ⟨c, hc, hinvoke⟩ := calculate_bind_writes_iff.1 hbody
    rw [statement_writes_iff.1 hinvoke]
    cases hverify : t.verify with
    | false =>
      rw [hverify] at hrest
      cases hrest
      exact .tolerated hkind hverify ho (call_eq_ok_iff.1 hc)
    | true =>
      rw [hverify] at hrest
      cases hrest
      exact .expected hkind hverify ho (call_eq_ok_iff.1 hc)
  · intro h
    have htry : ∀ {c}, Invokes o b c → (block "try:" do
        let c ← calculate (b.call o)
        statement (.invoke c)).Writes [.block "try:" [.statement (.invoke c)]] () := fun hc =>
      block_writes_iff.2 ⟨_, calculate_bind_writes_iff.2 ⟨_, call_eq_ok_iff.2 hc, rfl⟩, rfl⟩
    cases h with
    | tolerated _ hverify ho' hc =>
      obtain rfl := Option.some.inj (ho.symm.trans ho')
      exact ⟨_, (), _, htry hc, by rw [hverify]; rfl, rfl⟩
    | expected _ hverify ho' hc =>
      obtain rfl := Option.some.inj (ho.symm.trans ho')
      exact ⟨_, (), _, htry hc, by rw [hverify]; rfl, rfl⟩
    | passed hk | ready hk | invoked hk | compared hk => exact nomatch hkind.symm.trans hk

theorem reported_writes_iff {metaCheck : Bool} {written : Emission Unit} :
    (written >>= fun _ => if t.verify && metaCheck then b.assertReports t else Pure.pure ()).Writes
      code () ↔ ∃ body, written.Writes body () ∧ code = body ++ reports b metaCheck t := by
  have hreports : ∀ rest, (if t.verify && metaCheck then b.assertReports t else Pure.pure ()).Writes
      rest () ↔ rest = reports b metaCheck t := by
    intro rest
    rw [reports]
    cases t.verify && metaCheck with
    | true => exact statements_writes_iff
    | false => exact pure_writes_iff.trans (and_iff_left rfl)
  rw [bind_writes_iff]
  constructor
  · rintro ⟨body, _, rest, hbody, hrest, rfl⟩
    exact ⟨body, hbody, by rw [(hreports rest).1 hrest]⟩
  · rintro ⟨body, hbody, rfl⟩
    exact ⟨body, (), _, hbody, (hreports _).2 rfl, rfl⟩

/-- A step that has an operation if it needs one is written in one of the forms, and then the
reports on it. -/
theorem step_writes_iff {metaCheck : Bool} (hop : t.lacksOperation = false) :
    (b.step metaCheck i t).Writes code () ↔
      ∃ body, StepForm b i t body ∧ code = body ++ reports b metaCheck t := by
  rw [step]
  cases hkind : t.kind with
  | initial => exact reported_writes_iff.trans (by simp only [initialStep_writes_iff hkind])
  | normal =>
    cases ho : t.operation with
    | none => simp [TestStep.lacksOperation, hkind, ho] at hop
    | some o => exact reported_writes_iff.trans (by simp only [normalStep_writes_iff hkind ho])
  | failure =>
    cases ho : t.operation with
    | none => simp [TestStep.lacksOperation, hkind, ho] at hop
    | some o => exact reported_writes_iff.trans (by simp only [failureStep_writes_iff hkind ho])

/-! ### Methods -/

theorem stepsFrom_writes_iff {metaCheck : Bool} {ts : List TestStep} :
    (b.stepsFrom metaCheck i ts).Writes code () ↔
      ∃ parts, List.Forall₂ (fun ti part => (b.step metaCheck ti.2 ti.1).Writes part ())
        (ts.zipIdx i) parts ∧ code = parts.flatten := by
  induction ts generalizing i code with
  | nil =>
    refine pure_writes_iff.trans ((and_iff_left rfl).trans ?_)
    constructor
    · rintro rfl
      exact ⟨[], .nil, rfl⟩
    · rintro ⟨_, hparts, rfl⟩
      cases hparts
      rfl
  | cons t ts ih =>
    rw [List.zipIdx_cons]
    refine bind_writes_iff.trans ⟨?_, ?_⟩
    · rintro ⟨first, _, rest, hfirst, hrest, rfl⟩
      obtain ⟨parts, hparts, rfl⟩ := ih.1 hrest
      exact ⟨first :: parts, .cons hfirst hparts, rfl⟩
    · rintro ⟨_, _ | ⟨hfirst, hparts⟩, rfl⟩
      exact ⟨_, (), _, hfirst, ih.2 ⟨_, hparts, rfl⟩, rfl⟩

def testHeader (index : Nat) : String := "def test" ++ toString index ++ "(self):"

theorem method_writes_iff {metaCheck : Bool} {q : TestSequence} :
    (b.method metaCheck i q).Writes code () ↔ ∃ summary parts, methodSummary i q = .ok summary ∧
      List.Forall₂ (fun ti part => (b.step metaCheck ti.2 ti.1).Writes part ())
        q.steps.zipIdx parts ∧
      code = [.block (testHeader i) (.docstring summary :: parts.flatten)] := by
  refine block_writes_iff.trans ?_
  simp only [calculate_bind_writes_iff, write_bind_writes_iff, stepsFrom_writes_iff]
  constructor
  · rintro ⟨_, ⟨summary, hsummary, _, ⟨parts, hparts, rfl⟩, rfl⟩, rfl⟩
    exact ⟨summary, parts, hsummary, hparts, rfl⟩
  · rintro ⟨summary, parts, hsummary, hparts, rfl⟩
    exact ⟨_, ⟨summary, hsummary, _, ⟨parts, hparts, rfl⟩, rfl⟩, rfl⟩

theorem methodsFrom_writes_iff {metaCheck : Bool} {qs : List TestSequence} :
    (b.methodsFrom metaCheck i qs).Writes code () ↔
      ∃ methods, List.Forall₂ (fun qi method => (b.method metaCheck qi.2 qi.1).Writes [method] ())
        (qs.zipIdx i) methods ∧ code = methods.flatMap fun method => [.blank 1, method] := by
  induction qs generalizing i code with
  | nil =>
    refine pure_writes_iff.trans ((and_iff_left rfl).trans ?_)
    constructor
    · rintro rfl
      exact ⟨[], .nil, rfl⟩
    · rintro ⟨_, hmethods, rfl⟩
      cases hmethods
      rfl
  | cons q qs ih =>
    rw [List.zipIdx_cons]
    refine write_bind_writes_iff.trans ⟨?_, ?_⟩
    · rintro ⟨_, hwrites, rfl⟩
      obtain ⟨first, _, rest, hfirst, hrest, rfl⟩ := bind_writes_iff.1 hwrites
      obtain ⟨methods, hmethods, rfl⟩ := ih.1 hrest
      obtain ⟨summary, parts, hsummary, hparts, rfl⟩ := method_writes_iff.1 hfirst
      have hmethod := method_writes_iff.2 ⟨summary, parts, hsummary, hparts, rfl⟩
      exact ⟨_ :: methods, .cons hmethod hmethods, rfl⟩
    · rintro ⟨_, _ | ⟨hfirst, hmethods⟩, rfl⟩
      exact ⟨_, bind_writes_iff.2 ⟨_, (), _, hfirst, ih.2 ⟨_, hmethods, rfl⟩, rfl⟩, rfl⟩

end Backend

end Grounding

import Grounding.Proofs.Driver.Dependency
import Grounding.Proofs.Driver.Grounded
import Grounding.Proofs.Suite.Numbers
import Grounding.Proofs.Synthesis.Soundness

/-!
# When a suite has a driver

Before a driver is written its steps must have their operations and its types must be read. After
that only the literals matter that are evaluated on the way: the driver comes to its end if each of
them stands for a value, and otherwise the writing ends with the fault of one of them. A suite in
memory may also hold a number that is too long for the docstring of its method.
-/

namespace Grounding

open Emission

/-! ### Parameters -/

namespace Parameter

variable {p : Parameter}

def IsReadable (p : Parameter) : Prop := ∃ d, p.descriptor = .ok d

theorem exists_evaluate_of_not_bound (h : p.bound = false) : ∃ x, p.evaluate = .ok x :=
  ⟨.none, by rw [evaluate, h]; rfl⟩

theorem failsOnly_evaluate (h : p.IsReadable) : Outcome.FailsOnly Fault.IsRefusal p.evaluate := by
  obtain ⟨d, hd⟩ := h
  have hparse : Descriptor.parse .bracket p.type = .ok d := Outcome.mapError_eq_ok_iff.1 hd
  rw [evaluate]
  split
  · rw [Synthesis.createText, Synthesis.readType, hparse]
    exact Synthesis.failsOnly_create d _
  · exact Outcome.failsOnly_pure _

theorem exists_operand_iff (h : p.IsReadable) : (∃ a, p.operand = .ok a) ↔
    (p.bound = true → isLiteralText p.type = true → ∃ x, p.evaluate = .ok x) := by
  obtain ⟨d, hd⟩ := h
  rw [operand]
  cases hbound : p.bound with
  | false => exact iff_of_true ⟨.absent, rfl⟩ nofun
  | true =>
    cases hliteral : isLiteralText p.type with
    | false => exact iff_of_true ⟨_, Outcome.exceptMap_eq_ok_iff.2 ⟨d, hd, rfl⟩⟩ nofun
    | true =>
      constructor
      · rintro ⟨a, ha⟩ - -
        obtain ⟨x, hx, -⟩ := Outcome.exceptMap_eq_ok_iff.1 ha
        exact ⟨x, hx⟩
      · intro hevaluate
        obtain ⟨x, hx⟩ := hevaluate rfl rfl
        exact ⟨.constant x, Outcome.exceptMap_eq_ok_iff.2 ⟨x, hx, rfl⟩⟩

theorem failsOnly_operand (h : p.IsReadable) : Outcome.FailsOnly Fault.IsRefusal p.operand := by
  rw [operand]
  split
  · exact Outcome.failsOnly_pure _
  · split
    · exact (failsOnly_evaluate h).map
    · obtain ⟨d, hd⟩ := h
      rw [hd]
      exact Outcome.failsOnly_pure _

end Parameter

/-! ### Which parameters are evaluated -/

namespace Backend

variable {b : Backend} {c : Call} {i : Nat} {o : Operation} {t : TestStep} {ps : List Parameter}

/-- The parameters that are evaluated to write a step: inputs of the literal types, or all inputs if
they make a path, and the outputs of the literal types that are compared. -/
inductive Evaluates (b : Backend) (t : TestStep) (p : Parameter) : Prop
  | input {o : Operation} : t.kind ≠ .initial → t.operation = some o → p ∈ o.inputs →
      p.bound = true → b = .rest ∨ isLiteralText p.type = true → Evaluates b t p
  | output {o : Operation} : t.kind = .normal → t.verify = true → t.operation = some o →
      p ∈ o.outputs → p.bound = true → isLiteralText p.type = true → Evaluates b t p

theorem exists_invokes_iff (hread : ∀ p ∈ o.inputs, p.IsReadable) : (∃ c, Invokes o b c) ↔
    ∀ p ∈ o.inputs, p.bound = true → b = .rest ∨ isLiteralText p.type = true →
      ∃ x, p.evaluate = .ok x := by
  by_cases hb : b = .rest
  · subst hb
    have hpath : (∃ c, Invokes o .rest c) ↔ ∃ literals : List String,
        List.Forall₂ (fun p s => ∃ x, p.evaluate = .ok x ∧ x.literal = s) o.inputs literals := by
      constructor
      · rintro ⟨_, hne | hliterals⟩
        · exact absurd rfl hne
        · exact ⟨_, hliterals⟩
      · exact fun ⟨_, hliterals⟩ => ⟨_, .path hliterals⟩
    rw [hpath, Itemwise.exists_forall₂_iff]
    refine forall₂_congr fun p _ => ⟨fun ⟨_, x, hx, _⟩ _ _ => ⟨x, hx⟩, fun h => ?_⟩
    cases hbound : p.bound with
    | false =>
      obtain ⟨x, hx⟩ := Parameter.exists_evaluate_of_not_bound hbound
      exact ⟨_, x, hx, rfl⟩
    | true =>
      obtain ⟨x, hx⟩ := h hbound (.inl rfl)
      exact ⟨_, x, hx, rfl⟩
  · have hdirect : (∃ c, Invokes o b c) ↔
        ∃ args, List.Forall₂ (fun p a => p.operand = .ok a) o.inputs args := by
      constructor
      · rintro ⟨_, ⟨-, hargs⟩ | -⟩
        · exact ⟨_, hargs⟩
        · exact absurd rfl hb
      · exact fun ⟨_, hargs⟩ => ⟨_, .direct hb hargs⟩
    rw [hdirect, Itemwise.exists_forall₂_iff]
    refine forall₂_congr fun p hp => ?_
    rw [Parameter.exists_operand_iff (hread p hp)]
    simp only [hb, false_or]

theorem exists_receives (hread : ∀ p ∈ ps, p.IsReadable) : ∃ ss, Receives c i b ps ss := by
  rcases ps with _ | ⟨p, _ | ⟨q, ps⟩⟩
  · by_cases hb : b = .rest
    · subst hb
      exact ⟨_, .response⟩
    · exact ⟨_, .nothing hb⟩
  · obtain ⟨d, hd⟩ := hread p List.mem_cons_self
    by_cases hb : b = .rest
    · subst hb
      exact ⟨_, .decoded hd⟩
    · exact ⟨_, .one hb hd⟩
  · have hseveral : 2 ≤ (p :: q :: ps).length := Nat.le_add_left 2 ps.length
    obtain ⟨d, hd⟩ := hread p List.mem_cons_self
    cases b with
    | inProcess => exact ⟨_, .several hseveral⟩
    | rpc => exact ⟨_, .items hseveral⟩
    | rest => exact ⟨_, .decodedList nofun hd⟩

theorem exists_compares_iff : (∃ ss, Compares i b ps ss) ↔ ∀ p ∈ ps, ∃ a, p.operand = .ok a := by
  constructor
  · rintro ⟨_, h⟩
    cases h with
    | nothing | noResponse => exact List.forall_mem_nil _
    | one hexpected => exact List.forall_mem_singleton.2 ⟨_, hexpected⟩
    | several _ hexpected => exact Itemwise.exists_forall₂_iff.1 ⟨_, hexpected⟩
  · intro h
    rcases ps with _ | ⟨p, _ | ⟨q, ps⟩⟩
    · by_cases hb : b = .rest
      · subst hb
        exact ⟨_, .noResponse⟩
      · exact ⟨_, .nothing hb⟩
    · obtain ⟨expected, hexpected⟩ := h p List.mem_cons_self
      exact ⟨_, .one hexpected⟩
    · obtain ⟨expected, hexpected⟩ := Itemwise.exists_forall₂_iff.2 h
      exact ⟨_, .several (Nat.le_add_left 2 ps.length) hexpected⟩

end Backend

namespace TestStep

def IsReadable (t : TestStep) : Prop :=
  ∀ o, t.operation = some o → (∀ p ∈ o.inputs, p.IsReadable) ∧ ∀ p ∈ o.outputs, p.IsReadable

theorem lacksOperation_eq_false_iff {t : TestStep} :
    t.lacksOperation = false ↔ (t.kind ≠ .initial → ∃ o, t.operation = some o) := by
  rw [lacksOperation, Bool.and_eq_false_imp, bne_iff_ne]
  simp only [Option.isNone_eq_false_iff, Option.isSome_iff_exists]

end TestStep

namespace Backend

variable {b : Backend} {i : Nat} {t : TestStep} {body : List Code}

theorem StepForm.exists_invokes {o : Operation} (h : StepForm b i t body)
    (hkind : t.kind ≠ .initial) (ho : t.operation = some o) : ∃ c, Invokes o b c := by
  cases h with
  | passed hk | ready hk => exact absurd hk hkind
  | invoked _ _ ho' hc | compared _ _ ho' hc | tolerated _ _ ho' hc | expected _ _ ho' hc =>
    obtain rfl := Option.some.inj (ho.symm.trans ho')
    exact ⟨_, hc⟩

theorem StepForm.exists_compares {o : Operation} (h : StepForm b i t body)
    (hkind : t.kind = .normal) (hverify : t.verify = true) (ho : t.operation = some o) :
    ∃ ss, Compares i b o.outputs ss := by
  cases h with
  | compared _ _ ho' _ _ hexpected =>
    obtain rfl := Option.some.inj (ho.symm.trans ho')
    exact ⟨_, hexpected⟩
  | invoked _ hv => exact nomatch hverify.symm.trans hv
  | passed hk | ready hk | tolerated hk | expected hk => exact nomatch hkind.symm.trans hk

theorem exists_stepForm_iff (hop : t.lacksOperation = false) (hread : t.IsReadable) :
    (∃ body, StepForm b i t body) ↔ ∀ p, b.Evaluates t p → ∃ x, p.evaluate = .ok x := by
  constructor
  · rintro ⟨body, h⟩ p hp
    cases hp with
    | input hkind ho hmem hbound hliteral =>
      have hc := h.exists_invokes hkind ho
      exact (exists_invokes_iff (hread _ ho).1).1 hc p hmem hbound hliteral
    | output hkind hverify ho hmem hbound hliteral =>
      have hoperand := exists_compares_iff.1 (h.exists_compares hkind hverify ho) p hmem
      exact (Parameter.exists_operand_iff ((hread _ ho).2 p hmem)).1 hoperand hbound hliteral
  · intro h
    have hcall : t.kind ≠ .initial → ∃ o c, t.operation = some o ∧ Invokes o b c := by
      intro hkind
      obtain ⟨o, ho⟩ := TestStep.lacksOperation_eq_false_iff.1 hop hkind
      obtain ⟨c, hc⟩ := (exists_invokes_iff (hread o ho).1).2 fun p hmem hbound hliteral =>
        h p (.input hkind ho hmem hbound hliteral)
      exact ⟨o, c, ho, hc⟩
    cases hkind : t.kind with
    | initial =>
      cases hverify : t.verify with
      | false => exact ⟨_, .passed hkind hverify⟩
      | true => exact ⟨_, .ready hkind hverify⟩
    | normal =>
      obtain ⟨o, c, ho, hc⟩ := hcall (by rw [hkind]; nofun)
      cases hverify : t.verify with
      | false => exact ⟨_, .invoked hkind hverify ho hc⟩
      | true =>
        have hoperands : ∀ p ∈ o.outputs, ∃ a, p.operand = .ok a := fun p hmem =>
          (Parameter.exists_operand_iff ((hread o ho).2 p hmem)).2 fun hbound hliteral =>
            h p (.output hkind hverify ho hmem hbound hliteral)
        obtain ⟨received, hreceived⟩ := exists_receives (hread o ho).2
        obtain ⟨expected, hexpected⟩ := exists_compares_iff.2 hoperands
        exact ⟨_, .compared hkind hverify ho hc hreceived hexpected⟩
    | failure =>
      obtain ⟨o, c, ho, hc⟩ := hcall (by rw [hkind]; nofun)
      cases hverify : t.verify with
      | false => exact ⟨_, .tolerated hkind hverify ho hc⟩
      | true => exact ⟨_, .expected hkind hverify ho hc⟩

/-! ### Methods -/

variable {n : Int} {q : TestSequence}

theorem exists_integerText_iff : (∃ text, integerText n = .ok text) ↔
    Numeral.isWritable n = true := by
  rw [integerText]
  cases Numeral.isWritable n with
  | true => exact iff_of_true ⟨_, rfl⟩ rfl
  | false => exact iff_of_false nofun nofun

theorem exists_sequenceNumber_iff : (∃ text, sequenceNumber i q = .ok text) ↔
    Numeral.isWritable q.test = true := by
  rw [sequenceNumber]
  split
  · next hzero =>
    rw [eq_of_beq hzero]
    exact iff_of_true ⟨_, rfl⟩ (Reader.isWritable_of_natAbs_lt (by decide))
  · exact exists_integerText_iff

theorem exists_methodSummary_iff : (∃ summary, methodSummary i q = .ok summary) ↔
    q.IsWritable := by
  rw [TestSequence.IsWritable, ← exists_sequenceNumber_iff (i := i), ← exists_integerText_iff]
  simp only [methodSummary, Outcome.bind_eq_ok_iff, Outcome.pure_eq_ok_iff]
  constructor
  · rintro ⟨_, number, hnumber, path, hpath, -⟩
    exact ⟨⟨number, hnumber⟩, path, hpath⟩
  · rintro ⟨⟨number, hnumber⟩, path, hpath⟩
    exact ⟨_, number, hnumber, path, hpath, rfl⟩

theorem failsOnly_integerText (n : Int) : Outcome.FailsOnly (· = .tooLong) (integerText n) := by
  rw [integerText]
  split
  · exact nofun
  · exact fun _ h => (Except.error.inj h).symm

theorem failsOnly_methodSummary (i : Nat) (q : TestSequence) :
    Outcome.FailsOnly (· = .tooLong) (methodSummary i q) := by
  have hnumber : Outcome.FailsOnly (· = .tooLong) (sequenceNumber i q) := by
    rw [sequenceNumber]
    split
    · exact nofun
    · exact failsOnly_integerText _
  exact hnumber.bind fun _ _ => (failsOnly_integerText _).bind fun _ _ => Outcome.failsOnly_pure _

/-- The numbers of a sequence can be written, and each parameter that is evaluated for one of its
steps stands for a value. -/
def CanWrite (b : Backend) (q : TestSequence) : Prop :=
  q.IsWritable ∧ ∀ t ∈ q.steps, ∀ p, b.Evaluates t p → ∃ x, p.evaluate = .ok x

theorem exists_methodForm_iff {metaCheck : Bool}
    (hops : ∀ t ∈ q.steps, t.lacksOperation = false) (hread : ∀ t ∈ q.steps, t.IsReadable) :
    (∃ method, b.MethodForm metaCheck i q method) ↔ b.CanWrite q := by
  have hparts : (∃ method, b.MethodForm metaCheck i q method) ↔
      (∃ summary, methodSummary i q = .ok summary) ∧ ∃ parts, List.Forall₂
        (fun ti part => ∃ body, StepForm b ti.2 ti.1 body ∧
          part = body ++ reports b metaCheck ti.1) q.steps.zipIdx parts :=
    ⟨fun ⟨_, summary, parts, hsummary, hparts, _⟩ => ⟨⟨summary, hsummary⟩, parts, hparts⟩,
      fun ⟨⟨summary, hsummary⟩, parts, hparts⟩ => ⟨_, summary, parts, hsummary, hparts, rfl⟩⟩
  rw [hparts, exists_methodSummary_iff, Itemwise.exists_forall₂_iff, CanWrite]
  refine and_congr_right fun _ =>
    (forall₂_congr fun ti hti => ?_).trans Itemwise.forall_mem_zipIdx_fst
  have ht := List.fst_mem_of_mem_zipIdx hti
  rw [← exists_stepForm_iff (hops _ ht) (hread _ ht)]
  exact ⟨fun ⟨_, body, hbody, _⟩ => ⟨body, hbody⟩, fun ⟨body, hbody⟩ => ⟨_, body, hbody, rfl⟩⟩

theorem Evaluates.isReadable {p : Parameter} (h : b.Evaluates t p) (hread : t.IsReadable) :
    p.IsReadable := by
  cases h with
  | input _ ho hp => exact (hread _ ho).1 p hp
  | output _ _ ho hp => exact (hread _ ho).2 p hp

end Backend

/-! ### Faults -/

namespace Backend

variable {b : Backend} {i : Nat} {t : TestStep} {o : Operation} {ps : List Parameter}

theorem failsOnly_call (hread : ∀ p ∈ o.inputs, p.IsReadable) :
    Outcome.FailsOnly Fault.IsRefusal (b.call o) := by
  cases b with
  | inProcess | rpc =>
    exact (Outcome.FailsOnly.mapM fun p hp => Parameter.failsOnly_operand (hread p hp)).map
  | rest =>
    exact (Outcome.FailsOnly.mapM fun p hp => (Parameter.failsOnly_evaluate (hread p hp)).map).map

theorem failsOnly_receive (hread : ∀ p ∈ ps, p.IsReadable) (c : Call) :
    FailsOnly Fault.IsRefusal (b.receive c i ps) := by
  obtain ⟨ss, hss⟩ := exists_receives (b := b) (c := c) (i := i) hread
  have hwrites := exists_writes_iff.1 ⟨_, receive_writes_iff.2 ⟨ss, hss, rfl⟩⟩
  rw [FailsOnly, hwrites]
  exact Outcome.failsOnly_pure ()

theorem failsOnly_assertOutputs (hread : ∀ p ∈ ps, p.IsReadable) :
    FailsOnly Fault.IsRefusal (b.assertOutputs i ps) := by
  rcases ps with _ | ⟨p, _ | ⟨q, ps⟩⟩
  · cases b with
    | inProcess | rpc => exact failsOnly_pure ()
    | rest => exact failsOnly_statement _
  · have hp := Parameter.failsOnly_operand (hread p List.mem_cons_self)
    exact FailsOnly.bind (.calculate hp) fun _ => failsOnly_statement _
  · have hps : Outcome.FailsOnly Fault.IsRefusal ((p :: q :: ps).mapM Parameter.operand) :=
      .mapM fun p hp => Parameter.failsOnly_operand (hread p hp)
    exact FailsOnly.bind (.calculate hps) fun _ =>
      (failsOnly_statement _).bind fun _ => failsOnly_statement _

theorem failsOnly_normalStep (hread : t.IsReadable) (ho : t.operation = some o) (verify : Bool) :
    FailsOnly Fault.IsRefusal (b.normalStep i verify o) := by
  rw [normalStep]
  refine FailsOnly.bind (.calculate (failsOnly_call (hread o ho).1)) fun c => ?_
  cases verify with
  | false => exact failsOnly_statement _
  | true => exact (failsOnly_receive (hread o ho).2 c).bind fun _ =>
      (failsOnly_statement _).bind fun _ => failsOnly_assertOutputs (hread o ho).2

theorem failsOnly_failureStep (hread : t.IsReadable) (ho : t.operation = some o) (verify : Bool) :
    FailsOnly Fault.IsRefusal (b.failureStep i verify o) := by
  have htry : FailsOnly Fault.IsRefusal (do
      let c ← calculate (b.call o)
      statement (.invoke c)) :=
    FailsOnly.bind (.calculate (failsOnly_call (hread o ho).1)) fun _ => failsOnly_statement _
  rw [failureStep]
  refine (htry.block _).bind fun _ => ((failsOnly_statement _).block _).bind fun _ => ?_
  cases verify with
  | false => exact failsOnly_pure ()
  | true => exact (failsOnly_write _).block _

theorem failsOnly_step {metaCheck : Bool} (hread : t.IsReadable) :
    FailsOnly Fault.IsRefusal (b.step metaCheck i t) := by
  have hreports : ∀ _ : Unit, FailsOnly Fault.IsRefusal
      (if t.verify && metaCheck then b.assertReports t else Pure.pure ()) := by
    intro _
    split
    · exact failsOnly_write _
    · exact failsOnly_pure ()
  rw [step]
  cases t.kind with
  | initial =>
    refine FailsOnly.bind ?_ hreports
    rw [initialStep]
    split
    · exact failsOnly_write _
    · exact failsOnly_pure ()
  | normal =>
    cases ho : t.operation with
    | none => exact failsOnly_pure ()
    | some o => exact (failsOnly_normalStep hread ho _).bind hreports
  | failure =>
    cases ho : t.operation with
    | none => exact failsOnly_pure ()
    | some o => exact (failsOnly_failureStep hread ho _).bind hreports

theorem failsOnly_stepsFrom {metaCheck : Bool} {ts : List TestStep}
    (hread : ∀ t ∈ ts, t.IsReadable) : FailsOnly Fault.IsRefusal (b.stepsFrom metaCheck i ts) := by
  induction ts generalizing i with
  | nil => exact failsOnly_pure ()
  | cons t ts ih =>
    rw [List.forall_mem_cons] at hread
    exact (failsOnly_step hread.1).bind fun _ => ih hread.2

/-! ### Outcomes of methods -/

variable {metaCheck : Bool} {q : TestSequence} {qs : List TestSequence}

theorem method_result_eq_ok_iff (hops : ∀ t ∈ q.steps, t.lacksOperation = false)
    (hread : ∀ t ∈ q.steps, t.IsReadable) :
    (b.method metaCheck i q).result = .ok () ↔ b.CanWrite q := by
  have hform : (∃ method, b.MethodForm metaCheck i q method) ↔ b.CanWrite q :=
    exists_methodForm_iff hops hread
  rw [← hform, ← exists_writes_iff]
  simp only [← method_writes_iff_form hops]
  refine ⟨fun ⟨code, h⟩ => ?_, fun ⟨_, h⟩ => ⟨_, h⟩⟩
  obtain ⟨summary, parts, -, -, rfl⟩ := method_writes_iff.1 h
  exact ⟨_, h⟩

theorem method_result_eq_tooLong_iff (hread : ∀ t ∈ q.steps, t.IsReadable) :
    (b.method metaCheck i q).result = .error .tooLong ↔ ¬ q.IsWritable := by
  have hresult : (b.method metaCheck i q).result =
      (methodSummary i q >>= fun _ => (b.stepsFrom metaCheck 0 q.steps).result) := by
    show (calculate (methodSummary i q) >>= _).result = _
    rw [result_bind]
    rfl
  rw [hresult, ← exists_methodSummary_iff (i := i)]
  cases hsummary : methodSummary i q with
  | ok summary =>
    refine iff_of_false (fun h => ?_) (not_not_intro ⟨summary, rfl⟩)
    obtain ⟨_, he⟩ := failsOnly_stepsFrom hread .tooLong h
    cases he
  | error f =>
    obtain rfl := failsOnly_methodSummary i q f hsummary
    exact iff_of_true rfl nofun

theorem failsOnly_method (hread : ∀ t ∈ q.steps, t.IsReadable) :
    FailsOnly (fun f => f.IsRefusal ∨ f = .tooLong) (b.method metaCheck i q) := by
  have hsummary : Outcome.FailsOnly (fun f => f.IsRefusal ∨ f = .tooLong) (methodSummary i q) :=
    (failsOnly_methodSummary i q).imp fun _ => .inr
  have hsteps : FailsOnly (fun f => f.IsRefusal ∨ f = .tooLong)
      (b.stepsFrom metaCheck 0 q.steps) :=
    Outcome.FailsOnly.imp (failsOnly_stepsFrom hread) fun _ => .inl
  exact (FailsOnly.bind (.calculate hsummary) fun _ => (failsOnly_write _).bind fun _ =>
    hsteps).block _

/-- Methods end with a fault if one of them does, after others that come to their end. -/
theorem methodsFrom_result_eq_error_iff {f : Fault} :
    (b.methodsFrom metaCheck i qs).result = .error f ↔ ∃ before q after,
      qs = before ++ q :: after ∧
      (∀ qi ∈ before.zipIdx i, (b.method metaCheck qi.2 qi.1).result = .ok ()) ∧
      (b.method metaCheck (i + before.length) q).result = .error f := by
  induction qs generalizing i with
  | nil => exact iff_of_false nofun fun ⟨before, _, _, h, _⟩ => by simp at h
  | cons q qs ih =>
    have hresult : (b.methodsFrom metaCheck i (q :: qs)).result =
        ((b.method metaCheck i q).result >>= fun _ =>
          (b.methodsFrom metaCheck (i + 1) qs).result) := by
      rw [← result_bind]
      rfl
    rw [hresult, Outcome.bind_eq_error_iff]
    constructor
    · rintro (h | ⟨_, hfirst, h⟩)
      · exact ⟨[], q, qs, rfl, List.forall_mem_nil _, h⟩
      · obtain ⟨before, q', after, rfl, hbefore, hq'⟩ := ih.1 h
        refine ⟨q :: before, q', after, rfl, ?_, ?_⟩
        · rw [List.zipIdx_cons]
          exact List.forall_mem_cons.2 ⟨hfirst, hbefore⟩
        · rwa [List.length_cons, ← Nat.add_assoc, Nat.add_right_comm]
    · rintro ⟨_ | ⟨q₀, before⟩, q', after, hqs, hbefore, hq'⟩
      · obtain ⟨rfl, rfl⟩ := List.cons.inj hqs
        exact .inl hq'
      · obtain ⟨rfl, rfl⟩ := List.cons.inj hqs
        rw [List.zipIdx_cons, List.forall_mem_cons] at hbefore
        rw [List.length_cons, ← Nat.add_assoc, Nat.add_right_comm] at hq'
        exact .inr ⟨(), hbefore.1, ih.2 ⟨before, q', after, rfl, hbefore.2, hq'⟩⟩

end Backend

/-! ### Suites -/

namespace TestSuite

variable {s : TestSuite} {o : DriverOptions} {r : DependencyRecord}

theorem isReadable_of_analyse (h : s.analyse o.targetPackage o.sourcePackages = .ok r) :
    ∀ q ∈ s.sequences, ∀ t ∈ q.steps, t.IsReadable := by
  have hread : ∀ u ∈ s.slots, u.2.IsReadable := by
    intro u hu
    by_cases hsynthesized : u.2.IsSynthesized
    · obtain ⟨d, hd⟩ := exists_derives_of_analyse h hu hsynthesized
      exact ⟨d, Parameter.descriptor_eq_ok_iff.2 hd⟩
    · rw [Parameter.IsSynthesized, not_forall_not] at hsynthesized
      obtain ⟨type, htype⟩ := hsynthesized
      exact ⟨.primitive type, Parameter.descriptor_of_primitive htype⟩
  exact fun q hq t ht o ho =>
    ⟨fun p hp => hread (.input, p) (mem_slots_iff.2 ⟨q, hq, t, ht, o, ho, hp⟩),
      fun p hp => hread (.output, p) (mem_slots_iff.2 ⟨q, hq, t, ht, o, ho, hp⟩)⟩

theorem emit_result_eq : (s.emit o r).result =
    (o.backend.methodsFrom (s.checksReports o) 1 s.sequences).result := rfl

theorem emit_result_eq_ok_iff (hops : s.HasOperations)
    (hread : ∀ q ∈ s.sequences, ∀ t ∈ q.steps, t.IsReadable) :
    (s.emit o r).result = .ok () ↔ ∀ q ∈ s.sequences, o.backend.CanWrite q := by
  have hmethods : (s.emit o r).result = .ok () ↔ ∃ methods,
      List.Forall₂ (fun qi => o.backend.MethodForm (s.checksReports o) qi.2 qi.1)
        (s.sequences.zipIdx 1) methods := by
    rw [← exists_writes_iff]
    simp only [emit_writes_iff, forall₂_method_writes_iff hops]
    exact ⟨fun ⟨_, methods, h, _⟩ => ⟨methods, h⟩, fun ⟨methods, h⟩ => ⟨_, methods, h, rfl⟩⟩
  rw [hmethods, Itemwise.exists_forall₂_iff]
  refine (forall₂_congr fun qi hqi => ?_).trans Itemwise.forall_mem_zipIdx_fst
  have hq := List.fst_mem_of_mem_zipIdx hqi
  exact Backend.exists_methodForm_iff (hops _ hq) (hread _ hq)

theorem emit_result_eq_error_iff (hops : s.HasOperations)
    (hread : ∀ q ∈ s.sequences, ∀ t ∈ q.steps, t.IsReadable) {f : Fault} :
    (s.emit o r).result = .error f ↔ ∃ before q after, s.sequences = before ++ q :: after ∧
      (∀ q' ∈ before, o.backend.CanWrite q') ∧
      (o.backend.method (s.checksReports o) (1 + before.length) q).result = .error f := by
  rw [emit_result_eq, Backend.methodsFrom_result_eq_error_iff]
  refine exists_congr fun before => exists_congr fun q => exists_congr fun after =>
    and_congr_right fun hsequences => and_congr_left fun _ => ?_
  refine (forall₂_congr fun qi hqi => ?_).trans Itemwise.forall_mem_zipIdx_fst
  have hq : qi.1 ∈ s.sequences := by
    rw [hsequences]
    exact List.mem_append_left _ (List.fst_mem_of_mem_zipIdx hqi)
  exact Backend.method_result_eq_ok_iff (hops _ hq) (hread _ hq)

/-- The check names the first step that lacks its operation, and the number of its sequence. -/
theorem checkOperations_eq_error_iff {n : Nat} {qs : List TestSequence} {e : GroundError} :
    checkOperations n qs = .error e ↔ ∃ before q after t, qs = before ++ q :: after ∧
      (∀ q' ∈ before, ∀ t' ∈ q'.steps, t'.lacksOperation = false) ∧
      q.steps.find? TestStep.lacksOperation = some t ∧
      e = .noOperation t.name (n + before.length) := by
  induction qs generalizing n with
  | nil => exact iff_of_false nofun fun ⟨before, _, _, _, h, _⟩ => by simp at h
  | cons q qs ih =>
    rw [checkOperations]
    cases hfind : q.steps.find? TestStep.lacksOperation with
    | some t =>
      constructor
      · intro h
        exact ⟨[], q, qs, t, rfl, List.forall_mem_nil _, hfind, (Except.error.inj h).symm⟩
      · rintro ⟨before, q', after, t', hqs, hbefore, hfind', rfl⟩
        cases before with
        | nil =>
          obtain ⟨rfl, rfl⟩ := List.cons.inj hqs
          obtain rfl := Option.some.inj (hfind.symm.trans hfind')
          rfl
        | cons q₀ before =>
          obtain ⟨rfl, rfl⟩ := List.cons.inj hqs
          have hhas := hbefore q List.mem_cons_self t (List.mem_of_find?_eq_some hfind)
          rw [List.find?_some hfind] at hhas
          cases hhas
    | none =>
      have hnone : ∀ t ∈ q.steps, t.lacksOperation = false := fun t ht =>
        Bool.eq_false_iff.2 (List.find?_eq_none.1 hfind t ht)
      refine ih.trans ⟨?_, ?_⟩
      · rintro ⟨before, q', after, t, rfl, hbefore, hfind', rfl⟩
        refine ⟨q :: before, q', after, t, rfl, List.forall_mem_cons.2 ⟨hnone, hbefore⟩, hfind', ?_⟩
        rw [List.length_cons, Nat.add_right_comm]
        rfl
      · rintro ⟨before, q', after, t, hqs, hbefore, hfind', rfl⟩
        cases before with
        | nil =>
          obtain ⟨rfl, rfl⟩ := List.cons.inj hqs
          rw [hfind] at hfind'
          cases hfind'
        | cons q₀ before =>
          obtain ⟨rfl, rfl⟩ := List.cons.inj hqs
          refine ⟨before, q', after, t, rfl, (List.forall_mem_cons.1 hbefore).2, hfind', ?_⟩
          rw [List.length_cons, Nat.add_right_comm]
          rfl

theorem not_hasOperations_iff : ¬ s.HasOperations ↔
    ∃ q ∈ s.sequences, ∃ t ∈ q.steps, t.kind ≠ .initial ∧ t.operation = none := by
  simp [HasOperations, TestStep.lacksOperation]

/-! ### Outcomes -/

theorem ground_result_eq_ok_iff (hops : s.HasOperations)
    (h : s.analyse o.targetPackage o.sourcePackages = .ok r) : (s.ground o).result = .ok r ↔
      ∀ q ∈ s.sequences, o.backend.CanWrite q :=
  ground_eq_ok_iff.trans <| (and_iff_right (prepare_eq_ok_iff.2 ⟨hops, h⟩)).trans <|
    emit_result_eq_ok_iff hops (isReadable_of_analyse h)

theorem ground_result_eq_fault_iff (hops : s.HasOperations)
    (h : s.analyse o.targetPackage o.sourcePackages = .ok r) {f : Fault} :
    (s.ground o).result = .error (.fault f) ↔
      ∃ before q after, s.sequences = before ++ q :: after ∧
        (∀ q' ∈ before, o.backend.CanWrite q') ∧
        (o.backend.method (s.checksReports o) (1 + before.length) q).result = .error f := by
  rw [← emit_result_eq_error_iff (r := r) hops (isReadable_of_analyse h),
    ground_of_prepare (prepare_eq_ok_iff.2 ⟨hops, h⟩)]
  cases (s.emit o r).result with
  | ok _ => exact iff_of_false nofun nofun
  | error f' =>
    show Except.error (GroundError.fault f') = _ ↔ _
    simp only [Except.error.injEq, GroundError.fault.injEq]

/-- Once the checks have passed, a suite has a driver, or else a literal is refused or a number is
too long. -/
theorem ground_result_of_analyse (hops : s.HasOperations)
    (h : s.analyse o.targetPackage o.sourcePackages = .ok r) :
    (s.ground o).result = .ok r ∨ (∃ e, (s.ground o).result = .error (.fault (.literal e))) ∨
      (s.ground o).result = .error (.fault .tooLong) := by
  have hread := isReadable_of_analyse h
  rw [ground_of_prepare (prepare_eq_ok_iff.2 ⟨hops, h⟩)]
  cases hemit : (s.emit o r).result with
  | ok _ => exact .inl rfl
  | error f =>
    obtain ⟨before, q, after, hsequences, -, hfault⟩ :=
      (emit_result_eq_error_iff hops hread).1 hemit
    have hq : q ∈ s.sequences := hsequences ▸ List.mem_append_cons_self
    obtain ⟨e, rfl⟩ | rfl := Backend.failsOnly_method (hread q hq) f hfault
    · exact .inr (.inl ⟨e, rfl⟩)
    · exact .inr (.inr rfl)

theorem ground_result_eq_tooLong_iff (hops : s.HasOperations)
    (h : s.analyse o.targetPackage o.sourcePackages = .ok r) :
    (s.ground o).result = .error (.fault .tooLong) ↔
      ∃ before q after, s.sequences = before ++ q :: after ∧
        (∀ q' ∈ before, o.backend.CanWrite q') ∧ ¬ q.IsWritable := by
  rw [ground_result_eq_fault_iff hops h]
  refine exists_congr fun before => exists_congr fun q => exists_congr fun after =>
    and_congr_right fun hsequences => and_congr_right fun _ => ?_
  have hq : q ∈ s.sequences := hsequences ▸ List.mem_append_cons_self
  exact Backend.method_result_eq_tooLong_iff (isReadable_of_analyse h q hq)

theorem exists_refused_iff (hops : s.HasOperations)
    (h : s.analyse o.targetPackage o.sourcePackages = .ok r)
    (hlong : (s.ground o).result ≠ .error (.fault .tooLong)) :
    (∃ e, (s.ground o).result = .error (.fault (.literal e))) ↔
      ∃ q ∈ s.sequences, ∃ t ∈ q.steps, ∃ p, o.backend.Evaluates t p ∧
        ∃ e, p.evaluate = .error (.literal e) := by
  have hread := isReadable_of_analyse h
  constructor
  · rintro ⟨e, he⟩
    obtain ⟨before, q, after, hsequences, hbefore, hfault⟩ := (ground_result_eq_fault_iff hops h).1 he
    have hq : q ∈ s.sequences := hsequences ▸ List.mem_append_cons_self
    have hnumbers : q.IsWritable := by
      by_contra hnumbers
      exact hlong ((ground_result_eq_tooLong_iff hops h).2
        ⟨before, q, after, hsequences, hbefore, hnumbers⟩)
    have hliteral : ¬ ∀ t ∈ q.steps, ∀ p, o.backend.Evaluates t p → ∃ x, p.evaluate = .ok x := by
      intro hliteral
      rw [(Backend.method_result_eq_ok_iff (hops q hq) (hread q hq)).2 ⟨hnumbers, hliteral⟩] at hfault
      cases hfault
    push Not at hliteral
    obtain ⟨t, ht, p, hp, hnone⟩ := hliteral
    obtain ⟨f, hf⟩ := Outcome.exists_eq_error_iff.2 hnone
    obtain ⟨e', rfl⟩ := Parameter.failsOnly_evaluate (hp.isReadable (hread q hq t ht)) f hf
    exact ⟨q, hq, t, ht, p, hp, e', hf⟩
  · rintro ⟨q, hq, t, ht, p, hp, e, he⟩
    refine ((ground_result_of_analyse hops h).resolve_left fun hok => ?_).resolve_right hlong
    obtain ⟨x, hx⟩ := ((ground_result_eq_ok_iff hops h).1 hok q hq).2 t ht p hp
    rw [he] at hx
    cases hx

/-- What comes of a suite, as its steps lack operations, its types cannot be read, or neither. -/
theorem ground_cases (s : TestSuite) (o : DriverOptions) :
    (¬ s.HasOperations ∧ ∃ step number, s.ground o = ⟨"", .error (.noOperation step number)⟩) ∨
    (s.HasOperations ∧ ∃ e, s.analyse o.targetPackage o.sourcePackages = .error e ∧
      s.ground o = ⟨"", .error (.fault (.descriptor e))⟩) ∨
    s.HasOperations ∧ ∃ r, s.analyse o.targetPackage o.sourcePackages = .ok r ∧
      ((s.ground o).result = .ok r ∨ (∃ e, (s.ground o).result = .error (.fault (.literal e))) ∨
        (s.ground o).result = .error (.fault .tooLong)) := by
  by_cases hops : s.HasOperations
  · have hcheck := checkOperations_eq_ok_iff (n := 1).2 hops
    cases hanalyse : s.analyse o.targetPackage o.sourcePackages with
    | error e =>
      refine .inr (.inl ⟨hops, e, rfl, ?_⟩)
      rw [ground, prepare, hcheck, hanalyse]
      rfl
    | ok r => exact .inr (.inr ⟨hops, r, rfl, ground_result_of_analyse hops hanalyse⟩)
  · refine .inl ⟨hops, ?_⟩
    cases hcheck : checkOperations 1 s.sequences with
    | ok _ => exact absurd (checkOperations_eq_ok_iff.1 hcheck) hops
    | error e =>
      obtain ⟨before, q, after, t, -, -, -, rfl⟩ := checkOperations_eq_error_iff.1 hcheck
      refine ⟨t.name, 1 + before.length, ?_⟩
      rw [ground, prepare, hcheck]
      rfl

theorem ground_ne_tooLong_of_parse {document : String} (h : parse document = .valid s)
    (o : DriverOptions) : (s.ground o).result ≠ .error (.fault .tooLong) := by
  intro hlong
  obtain ⟨-, _, _, hground⟩ | ⟨-, _, -, hground⟩ | ⟨hops, r, hr, -⟩ := s.ground_cases o
  · rw [hground] at hlong
    cases hlong
  · rw [hground] at hlong
    cases hlong
  · obtain ⟨before, q, after, hsequences, -, hnot⟩ := (ground_result_eq_tooLong_iff hops hr).1 hlong
    exact hnot (isWritable_of_parse h q (hsequences ▸ List.mem_append_cons_self))

end TestSuite

end Grounding

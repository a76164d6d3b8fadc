import Grounding.Proofs.Driver.Code
import Grounding.Proofs.Driver.Dependency
import Grounding.Proofs.Driver.Grounded

/-!
# Names that a driver binds

A test method may use the driver's factory, and the names of containers in annotations. When a
statement is written, the text of a type decides which of these occur, and when the imports are, its
descriptor does. What the statements use is always imported.
-/

namespace Grounding

open Descriptor

/-! ### What statements use -/

/-- Whether the driver's factory makes an operand. -/
def Operand.usesFactory : Operand → Bool
  | synthesized _ _ => true
  | absent | constant _ => false

def Call.operands : Call → List Operand
  | direct _ args => args
  | path _ _ => []

namespace Decoder

/-- Whether the driver's factory decodes a response. -/
def usesFactory : Decoder → Bool
  | factory _ => true
  | adapter _ | listAdapter _ => false

def annotation? : Decoder → Option Descriptor
  | factory _ => none
  | adapter d | listAdapter d => some d

end Decoder

namespace Assigned

def operands : Assigned → List Operand
  | call c | callItems c => c.operands
  | decoded _ _ => []
  | list operands => operands

def decoder? : Assigned → Option Decoder
  | decoded d _ => some d
  | call _ | callItems _ | list _ => none

end Assigned

namespace Statement

def operands : Statement → List Operand
  | invoke c => c.operands
  | assign _ _ value => value.operands
  | assertEqual expected _ => [expected]
  | _ => []

def decoder? : Statement → Option Decoder
  | assign _ _ value => value.decoder?
  | _ => none

/-- A statement has an expression that the driver's factory evaluates. -/
def UsesFactory (s : Statement) : Prop :=
  (∃ a ∈ s.operands, a.usesFactory = true) ∨ ∃ d ∈ s.decoder?, d.usesFactory = true

instance : DecidablePred UsesFactory := fun s =>
  inferInstanceAs (Decidable ((∃ a ∈ s.operands, a.usesFactory = true) ∨
    ∃ d ∈ s.decoder?, d.usesFactory = true))

theorem not_usesFactory {s : Statement} (hoperands : s.operands = [])
    (hdecoder : s.decoder? = none) : ¬ s.UsesFactory := by
  rintro (⟨a, ha, -⟩ | ⟨d, hd, -⟩)
  · rw [hoperands] at ha
    cases ha
  · rw [hdecoder] at hd
    cases hd

theorem UsesFactory.of_operands {s : Statement} (h : s.UsesFactory) (hdecoder : s.decoder? = none) :
    ∃ a ∈ s.operands, a.usesFactory = true :=
  h.resolve_right fun ⟨_, hd, _⟩ => nomatch hdecoder.symm.trans hd

theorem usesFactory_of_decoded {v response : Variable} {type : Option Descriptor} {d : Decoder}
    (h : (assign v type (.decoded d response)).UsesFactory) : d.usesFactory = true := by
  obtain ⟨_, ha, -⟩ | ⟨_, hd, hfactory⟩ := h
  · cases ha
  · obtain rfl := Option.some.inj hd
    exact hfactory

/-- The types whose annotations are in a statement, be it for a variable or for a decoder. -/
def annotations (s : Statement) : List Descriptor :=
  (match s with
    | assign _ (some d) _ => [d]
    | _ => []) ++ (s.decoder?.bind Decoder.annotation?).toList

/-- A statement that has neither an operand nor an annotation. -/
def IsBare (s : Statement) : Prop := ¬ s.UsesFactory ∧ s.annotations = []

theorem isBare_plain (text : String) : (plain text).IsBare := ⟨not_usesFactory rfl rfl, rfl⟩

theorem isBare_assertPresent (field : String) : (assertPresent field).IsBare :=
  ⟨not_usesFactory rfl rfl, rfl⟩

theorem isBare_assertReport (expected getter : String) : (assertReport expected getter).IsBare :=
  ⟨not_usesFactory rfl rfl, rfl⟩

end Statement

namespace Code

def AreBare (code : List Code) : Prop := ∀ s ∈ statementsIn code, s.IsBare

variable {cs ds body : List Code}

theorem areBare_nil : AreBare [] := List.forall_mem_nil _

theorem areBare_append : AreBare (cs ++ ds) ↔ AreBare cs ∧ AreBare ds := by
  rw [AreBare, statementsIn_append, List.forall_mem_append]
  rfl

theorem areBare_statement {s : Statement} :
    AreBare (.statement s :: cs) ↔ s.IsBare ∧ AreBare cs := List.forall_mem_cons

theorem areBare_blank {n : Nat} : AreBare (.blank n :: cs) ↔ AreBare cs := Iff.rfl

theorem areBare_docstring {texts : List String} :
    AreBare (.docstring texts :: cs) ↔ AreBare cs := Iff.rfl

theorem areBare_block {header : String} :
    AreBare (.block header body :: cs) ↔ AreBare body ∧ AreBare cs := List.forall_mem_append

end Code

/-! ### Annotations -/

inductive AnnotationPart where
  /-- The name of a type that needs no import. -/
  | builtin (p : Primitive)
  | container (c : Container)
  /-- The name of a type of the system. -/
  | external (name : String)
  /-- What stands between names. -/
  | mark (text : String)
deriving DecidableEq

def Container.hostName : Container → String
  | list => "List"
  | set => "Set"
  | map => "Dict"
  | pair => "Pair"

def AnnotationPart.text : AnnotationPart → String
  | builtin p => p.hostType
  | container c => c.hostName
  | external name => name
  | mark text => text

namespace Descriptor

def annotationParts : Descriptor → List AnnotationPart
  | primitive p => [.builtin p]
  | external name => [.external name]
  | list e => .container .list :: .mark "[" :: (e.annotationParts ++ [.mark "]"])
  | set e => .container .set :: .mark "[" :: (e.annotationParts ++ [.mark "]"])
  | map k v => .container .map :: .mark "[" ::
      (k.annotationParts ++ .mark ", " :: (v.annotationParts ++ [.mark "]"]))
  | pair _ _ => [.container .pair]

theorem hostType_eq (d : Descriptor) :
    d.hostType = String.join (d.annotationParts.map AnnotationPart.text) := by
  have hlist : "List[" = Container.hostName .list ++ "[" := rfl
  have hset : "Set[" = Container.hostName .set ++ "[" := rfl
  have hmap : "Dict[" = Container.hostName .map ++ "[" := rfl
  induction d with
  | primitive _ | external _ => simp [hostType, annotationParts, AnnotationPart.text]
  | pair _ _ => rfl
  | list e ih =>
    simp [hostType, annotationParts, AnnotationPart.text, hlist, ih, String.append_assoc]
  | set e ih =>
    simp [hostType, annotationParts, AnnotationPart.text, hset, ih, String.append_assoc]
  | map k v ihk ihv =>
    simp [hostType, annotationParts, AnnotationPart.text, hmap, ihk, ihv, String.append_assoc]

theorem mem_containers_of_annotation {d : Descriptor} {c : Container}
    (h : .container c ∈ d.annotationParts) : c ∈ d.containers := by
  induction d with
  | primitive _ | external _ => simp [annotationParts] at h
  | list e ih | set e ih =>
    simp only [annotationParts, containers, List.mem_cons, List.mem_append, reduceCtorEq,
      List.not_mem_nil, AnnotationPart.container.injEq, or_false, false_or] at h ⊢
    exact h.imp id ih
  | map k v ihk ihv =>
    simp only [annotationParts, containers, List.mem_cons, List.mem_append, reduceCtorEq,
      List.not_mem_nil, AnnotationPart.container.injEq, or_false, false_or] at h ⊢
    exact h.imp id (Or.imp ihk ihv)
  | pair _ _ =>
    rw [annotationParts, List.mem_singleton, AnnotationPart.container.injEq] at h
    rw [h]
    exact List.mem_cons_self

end Descriptor

/-! ### Parameters that need the factory -/

namespace Parameter

variable {p : Parameter}

theorem isSynthesized_of_operand {a : Operand} (h : p.operand = .ok a)
    (ha : a.usesFactory = true) : p.IsSynthesized := by
  rintro q hq
  rw [operand, if_pos (isLiteralText_of_primitive hq)] at h
  split at h
  · obtain rfl := Except.ok.inj h
    cases ha
  · obtain ⟨x, -, rfl⟩ := Outcome.exceptMap_eq_ok_iff.1 h
    cases ha

theorem isSynthesized_of_descriptor {d : Descriptor} (h : p.descriptor = .ok d)
    (hd : ∀ q, d ≠ .primitive q) : p.IsSynthesized := by
  rintro q hq
  exact hd q (Except.ok.inj (h.symm.trans (descriptor_of_primitive hq)))

end Parameter

namespace Backend

variable {b : Backend} {c : Call} {i : Nat} {o : Operation} {t : TestStep} {ps : List Parameter}
  {ss : List Statement} {body : List Code} {st : Statement} {metaCheck : Bool}

theorem usesFactory_decoder {d : Descriptor} (h : (decoder d).usesFactory = true) :
    ∀ q, d ≠ .primitive q := by
  rintro q rfl
  cases h

theorem usesFactory_listDecoder {d : Descriptor} (h : (listDecoder d).usesFactory = true) :
    ∀ q, d ≠ .primitive q := by
  rintro q rfl
  cases h

theorem Invokes.isSynthesized (h : Invokes o b c) {a : Operand} (ha : a ∈ c.operands)
    (hfactory : a.usesFactory = true) : b ≠ .rest ∧ ∃ p ∈ o.inputs, p.IsSynthesized := by
  cases h with
  | direct hb hargs =>
    obtain ⟨p, hp, hoperand⟩ := Itemwise.exists_mem_of_forall₂ hargs a ha
    exact ⟨hb, p, hp, Parameter.isSynthesized_of_operand hoperand hfactory⟩
  | path => cases ha

theorem Receives.usesFactory (h : Receives c i b ps ss) (hst : st ∈ ss) (huses : st.UsesFactory) :
    (∃ a ∈ c.operands, a.usesFactory = true) ∨ ∃ p ∈ ps, p.IsSynthesized := by
  cases h with
  | nothing | one | several | items | response =>
    obtain rfl := List.mem_singleton.1 hst
    exact .inl (huses.of_operands rfl)
  | decoded hd =>
    rcases hst with _ | ⟨_, _ | ⟨_, hst⟩⟩
    · exact .inl (huses.of_operands rfl)
    · have hfactory := usesFactory_decoder (Statement.usesFactory_of_decoded huses)
      exact .inr ⟨_, List.mem_cons_self, Parameter.isSynthesized_of_descriptor hd hfactory⟩
    · cases hst
  | decodedList _ hd =>
    rcases hst with _ | ⟨_, _ | ⟨_, hst⟩⟩
    · exact .inl (huses.of_operands rfl)
    · have hfactory := usesFactory_listDecoder (Statement.usesFactory_of_decoded huses)
      exact .inr ⟨_, List.mem_cons_self, Parameter.isSynthesized_of_descriptor hd hfactory⟩
    · cases hst

theorem Compares.usesFactory (h : Compares i b ps ss) (hst : st ∈ ss) (huses : st.UsesFactory) :
    ∃ p ∈ ps, p.IsSynthesized := by
  cases h with
  | nothing => cases hst
  | noResponse =>
    obtain rfl := List.mem_singleton.1 hst
    exact absurd huses (Statement.not_usesFactory rfl rfl)
  | one hexpected =>
    obtain rfl := List.mem_singleton.1 hst
    obtain ⟨a, ha, hfactory⟩ := huses.of_operands rfl
    obtain rfl := List.mem_singleton.1 ha
    exact ⟨_, List.mem_cons_self, Parameter.isSynthesized_of_operand hexpected hfactory⟩
  | several _ hexpected =>
    rcases hst with _ | ⟨_, _ | ⟨_, hst⟩⟩
    · obtain ⟨a, ha, hfactory⟩ := huses.of_operands rfl
      obtain ⟨p, hp, hoperand⟩ := Itemwise.exists_mem_of_forall₂ hexpected a ha
      exact ⟨p, hp, Parameter.isSynthesized_of_operand hoperand hfactory⟩
    · exact absurd huses (Statement.not_usesFactory rfl rfl)
    · cases hst

theorem annotation?_decoder {d e : Descriptor} (h : (decoder d).annotation? = some e) : e = d := by
  rw [decoder] at h
  split at h
  · cases h
  · exact (Option.some.inj h).symm

theorem annotation?_listDecoder {d e : Descriptor} (h : (listDecoder d).annotation? = some e) :
    e = d := by
  rw [listDecoder] at h
  split at h
  · cases h
  · exact (Option.some.inj h).symm

theorem Receives.annotations (h : Receives c i b ps ss) (hst : st ∈ ss) {d : Descriptor}
    (hd : d ∈ st.annotations) : ∃ p ∈ ps, p.descriptor = .ok d := by
  cases h with
  | nothing | several | items | response =>
    obtain rfl := List.mem_singleton.1 hst
    cases hd
  | one _ hp =>
    obtain rfl := List.mem_singleton.1 hst
    obtain rfl := List.mem_singleton.1 hd
    exact ⟨_, List.mem_cons_self, hp⟩
  | decoded hp =>
    rcases hst with _ | ⟨_, _ | ⟨_, hst⟩⟩
    · cases hd
    · rcases List.mem_append.1 hd with hd | hd
      · obtain rfl := List.mem_singleton.1 hd
        exact ⟨_, List.mem_cons_self, hp⟩
      · obtain rfl := annotation?_decoder (Option.mem_toList.1 hd)
        exact ⟨_, List.mem_cons_self, hp⟩
    · cases hst
  | decodedList _ hp =>
    rcases hst with _ | ⟨_, _ | ⟨_, hst⟩⟩
    · cases hd
    · obtain rfl := annotation?_listDecoder (Option.mem_toList.1 hd)
      exact ⟨_, List.mem_cons_self, hp⟩
    · cases hst

theorem Compares.annotations_eq_nil (h : Compares i b ps ss) : ∀ st ∈ ss, st.annotations = [] := by
  cases h <;> simp [Statement.annotations, Statement.decoder?, Assigned.decoder?]

/-- Where a step uses the factory, it has a parameter that needs it, and an output if its inputs
make a path. -/
theorem StepForm.usesFactory (h : StepForm b i t body) (hst : st ∈ Code.statementsIn body)
    (huses : st.UsesFactory) : ∃ o side p, t.operation = some o ∧ p ∈ o.parameters side ∧
      p.IsSynthesized ∧ (b = .rest → side = .output) := by
  have hcall : ∀ {o c}, t.operation = some o → Invokes o b c →
      (∃ a ∈ c.operands, a.usesFactory = true) → ∃ o side p, t.operation = some o ∧
        p ∈ o.parameters side ∧ p.IsSynthesized ∧ (b = .rest → side = .output) := by
    rintro o c ho hc ⟨a, ha, hfactory⟩
    obtain ⟨hb, p, hp, hsynthesized⟩ := hc.isSynthesized ha hfactory
    exact ⟨o, .input, p, ho, hp, hsynthesized, fun hrest => absurd hrest hb⟩
  obtain ⟨o, c, ho, hc, rfl⟩ | ⟨o, c, ss, ho, hc, hreceived, hst⟩ | ⟨o, ss, ho, hexpected, hst⟩ |
    hfixed := h.mem_cases hst
  · exact hcall ho hc (huses.of_operands rfl)
  · obtain hargs | ⟨p, hp, hsynthesized⟩ := hreceived.usesFactory hst huses
    · exact hcall ho hc hargs
    · exact ⟨o, .output, p, ho, hp, hsynthesized, fun _ => rfl⟩
  · obtain ⟨p, hp, hsynthesized⟩ := hexpected.usesFactory hst huses
    exact ⟨o, .output, p, ho, hp, hsynthesized, fun _ => rfl⟩
  · exact absurd huses (by cases hfixed <;> exact Statement.not_usesFactory rfl rfl)

theorem StepForm.annotations (h : StepForm b i t body) (hst : st ∈ Code.statementsIn body)
    {d : Descriptor} (hd : d ∈ st.annotations) :
    ∃ o p, t.operation = some o ∧ p ∈ o.outputs ∧ p.descriptor = .ok d := by
  obtain ⟨o, c, -, -, rfl⟩ | ⟨o, c, ss, ho, -, hreceived, hst⟩ | ⟨o, ss, ho, hexpected, hst⟩ |
    hfixed := h.mem_cases hst
  · cases hd
  · obtain ⟨p, hp, hdescriptor⟩ := hreceived.annotations hst hd
    exact ⟨o, p, ho, hp, hdescriptor⟩
  · rw [hexpected.annotations_eq_nil st hst] at hd
    cases hd
  · cases hfixed <;> cases hd

theorem MethodForm.exists_stepForm {index : Nat} {q : TestSequence} {method : Code}
    (h : b.MethodForm metaCheck index q method) (hst : st ∈ method.statements) :
    ∃ t ∈ q.steps, ∃ i body, StepForm b i t body ∧ (st ∈ Code.statementsIn body ∨
      ∃ expected getter, st = .assertReport expected getter) := by
  obtain ⟨summary, parts, -, hparts, rfl⟩ := h
  obtain ⟨c, hc, hst⟩ := Code.mem_statementsIn_iff.1 hst
  rcases hc with _ | ⟨_, hc⟩
  · cases hst
  · obtain ⟨part, hpart, hc⟩ := List.mem_flatten.1 hc
    obtain ⟨ti, hti, body, hform, rfl⟩ := Itemwise.exists_mem_of_forall₂ hparts part hpart
    refine ⟨ti.1, List.fst_mem_of_mem_zipIdx hti, ti.2, body, hform, ?_⟩
    have hmem := Code.mem_statementsIn_iff.2 ⟨c, hc, hst⟩
    rw [Code.statementsIn_append, List.mem_append] at hmem
    exact hmem.imp id fun hreport => (isReport_of_mem_reports hreport).2

end Backend

/-! ### What the head binds -/

/-- A line imports a name from some module. -/
def Binds (line name : String) : Prop :=
  ∃ module : String, line = "from " ++ module ++ " import " ++ name

def Binding.hostName : Binding → String
  | factory => "HostFactory"
  | container c => c.hostName

theorem Binding.binds_importLine (b : Binding) : Binds (importLine b.location) b.hostName := by
  cases b with
  | factory => exact ⟨"specground.ground.factory", by decide⟩
  | container c =>
    cases c with
    | list | set | map => exact ⟨"typing", by decide⟩
    | pair => exact ⟨"specground.ground.values", by decide⟩

namespace Heading

theorem mem_importGroup {lines : List String} {line : String} (h : line ∈ lines) :
    .statement (.plain line) ∈ importGroup lines := by
  have hne : lines.isEmpty = false := by
    rw [List.isEmpty_eq_false_iff]
    exact List.ne_nil_of_mem h
  rw [importGroup, hne]
  exact List.mem_cons_of_mem _ (List.mem_map_of_mem h)

variable {h : Heading}

theorem importLine_mem_imports (hneeds : h.needsFactory = true) {b : Binding}
    (hb : b ∈ h.record.bindings) : .statement (.plain (importLine b.location)) ∈ h.imports := by
  have hrecord : h.recordImports = h.record.importLines := by
    rw [recordImports, hneeds]
    cases h.backend <;> rfl
  have hline : importLine b.location ∈ h.recordImports := by
    rw [hrecord]
    exact List.mem_map_of_mem (List.mem_append_left _ (List.mem_map_of_mem hb))
  exact List.mem_append_right _ (mem_importGroup hline)

theorem areBare_plain (lines : List String) : Code.AreBare (plain lines) := by
  induction lines with
  | nil => exact Code.areBare_nil
  | cons line lines ih => exact Code.areBare_statement.2 ⟨Statement.isBare_plain line, ih⟩

theorem areBare_importGroup (lines : List String) : Code.AreBare (importGroup lines) := by
  rw [importGroup]
  split
  · exact Code.areBare_nil
  · exact Code.areBare_blank.2 (areBare_plain lines)

theorem areBare_preamble (h : Heading) : Code.AreBare h.preamble := by
  simp only [preamble, banner, imports, Code.areBare_append, Code.areBare_docstring,
    Code.areBare_blank, Code.areBare_nil, areBare_importGroup, and_self]

theorem areBare_classHead (h : Heading) : Code.AreBare h.classHead := by
  have hfactory : Code.AreBare h.factoryField := by
    rw [factoryField]
    split
    · exact Code.areBare_blank.2 (areBare_plain _)
    · exact Code.areBare_nil
  have hfields : Code.AreBare h.fields := by
    rw [fields]
    cases h.backend <;>
      simp only [Code.areBare_append, Code.areBare_blank, areBare_plain, hfactory, and_self]
  have hsetup : Code.AreBare h.setup := by
    rw [setup]
    cases h.backend <;>
      simp only [present, Code.areBare_append, Code.areBare_block, Code.areBare_docstring,
        Code.areBare_blank, Code.areBare_statement, Code.areBare_nil,
        Statement.isBare_assertPresent, areBare_plain, and_self]
  have hhelpers : Code.AreBare h.helpers := by
    rw [helpers]
    cases h.backend with
    | inProcess | rpc => exact Code.areBare_nil
    | rest =>
      cases h.metaCheck <;>
        simp only [callHelper, reportHelper, List.cons_append, List.nil_append, if_true,
          Bool.false_eq_true, if_false, Code.areBare_block, Code.areBare_docstring,
          Code.areBare_blank, Code.areBare_statement, Code.areBare_nil, Statement.isBare_plain,
          areBare_plain, and_self]
  simp only [classHead, constructor, Code.areBare_append, Code.areBare_block,
    Code.areBare_docstring, Code.areBare_blank, Code.areBare_nil, areBare_plain, hfields, hsetup,
    hhelpers, and_self]

theorem exists_factory_setup (hneeds : h.needsFactory = true) : ∃ body,
    .block "def __init__(self, method_name=\"runTest\"):" body ∈ h.classHead ∧
      .statement (.plain "self.factory = HostFactory()") ∈ body := by
  have hconstructor : ∀ c ∈ h.constructor, c ∈ h.classHead := fun c hc => by simp [classHead, hc]
  refine ⟨_, hconstructor _ List.mem_cons_self, ?_⟩
  rw [factorySetup, if_pos hneeds]
  exact List.mem_cons_of_mem _ (List.mem_cons_of_mem _ List.mem_cons_self)

end Heading

namespace TestSuite

variable {s : TestSuite} {o : DriverOptions} {r : DependencyRecord}

theorem statementsIn_driverCode (h : Heading) (methods : List Code) :
    Code.statementsIn (driverCode h methods) = Code.statementsIn h.preamble ++
      (Code.statementsIn h.classHead ++ Code.statementsIn methods) := by
  have hmethods : Code.statementsIn (methods.flatMap fun method => [.blank 1, method]) =
      Code.statementsIn methods := by
    induction methods with
    | nil => rfl
    | cons method methods ih =>
      rw [List.flatMap_cons, Code.statementsIn_append, ih]
      simp only [Code.statementsIn, Code.statements, List.nil_append, List.append_nil]
  rw [driverCode, Code.statementsIn_append, Code.statementsIn, Code.statements, classMembers,
    Code.statementsIn_append, hmethods, Code.statementsIn, List.append_nil]

theorem mem_bindings_of_slot (h : s.analyse o.targetPackage o.sourcePackages = .ok r)
    {u : Side × Parameter} (hu : u ∈ s.slots) (hsynthesized : u.2.IsSynthesized) {d : Descriptor}
    (hd : u.2.descriptor = .ok d) {b : Binding} (hb : b ∈ d.bindings) : b ∈ r.bindings :=
  (mem_bindings_iff_of_analyse h).2
    ⟨u, hu, hsynthesized, d, Parameter.descriptor_eq_ok_iff.1 hd, hb⟩

theorem factory_mem_bindings (h : s.analyse o.targetPackage o.sourcePackages = .ok r)
    {u : Side × Parameter} (hu : u ∈ s.slots) (hsynthesized : u.2.IsSynthesized) :
    .factory ∈ r.bindings := by
  obtain ⟨d, hd⟩ := exists_derives_of_analyse h hu hsynthesized
  exact (mem_bindings_iff_of_analyse h).2 ⟨u, hu, hsynthesized, d, hd, List.mem_cons_self⟩

/-- A parameter that needs the factory gives the driver one, unless it is an input of a path. -/
theorem needsFactory_of_slot (h : s.analyse o.targetPackage o.sourcePackages = .ok r)
    {side : Side} {p : Parameter} (hp : (side, p) ∈ s.slots) (hsynthesized : p.IsSynthesized)
    (hside : o.backend = .rest → side = .output) : (s.heading o r).needsFactory = true := by
  show o.backend.needsFactory r = true
  cases hb : o.backend with
  | inProcess | rpc => exact List.elem_eq_true_of_mem (factory_mem_bindings h hp hsynthesized)
  | rest =>
    obtain rfl := hside hb
    exact (synthesized_iff_of_analyse h .output).2 ⟨p, hp, hsynthesized⟩

/-- A statement of a driver is in the code of a step, or else it is bare. -/
theorem isBare_or_exists_stepForm (h : (s.ground o).result = .ok r) {st : Statement}
    (hst : st ∈ Code.statementsIn (s.emit o r).code) : st.IsBare ∨ ∃ q ∈ s.sequences,
      ∃ t ∈ q.steps, ∃ i body, o.backend.StepForm i t body ∧ st ∈ Code.statementsIn body := by
  obtain ⟨-, -, -, hcode, hmethods⟩ := code_of_ground h
  rw [hcode, statementsIn_driverCode, List.mem_append, List.mem_append] at hst
  rcases hst with hst | hst | hst
  · exact .inl (Heading.areBare_preamble _ st hst)
  · exact .inl (Heading.areBare_classHead _ st hst)
  · obtain ⟨method, hmethod, hst⟩ := Code.mem_statementsIn_iff.1 hst
    obtain ⟨qi, hqi, hform⟩ := Itemwise.exists_mem_of_forall₂ hmethods method hmethod
    obtain ⟨t, ht, i, body, hstep, hst | ⟨expected, getter, rfl⟩⟩ := hform.exists_stepForm hst
    · exact .inr ⟨qi.1, List.fst_mem_of_mem_zipIdx hqi, t, ht, i, body, hstep, hst⟩
    · exact .inl (Statement.isBare_assertReport expected getter)

end TestSuite

/-- A suite whose one step returns a list of items. -/
def TestSuite.listing : TestSuite where
  name := "Shelf"
  grounding := none
  metaCheck := false
  sequences := [⟨1, "Filled", 1, [⟨"list/ok", "Filled", true,
    some ⟨"list", [], [⟨"items", "List[Item]", some "[a]", true⟩], []⟩⟩]⟩]
  notices := []

end Grounding

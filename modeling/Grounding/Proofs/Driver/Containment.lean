import Grounding.Proofs.Driver.Grounded
import Grounding.Proofs.Driver.HeadLikeness
import Grounding.Proofs.Driver.MethodLikeness

/-!
# Free text stays in its literals

The texts of notices, states, expected failures and endpoints are free. Wherever one of them goes in
a driver it is within a literal, and nothing outside depends on it. So drivers of suites that differ
in such texts only are alike, and every driver is divided into blocks.
-/

namespace Grounding

open Lexing Emission

def Notice.withoutText (n : Notice) : Notice := { n with text := "" }

/-- The options of a driver without the address of the service. -/
def DriverOptions.withoutEndpoint (o : DriverOptions) : DriverOptions := { o with endpoint := none }

namespace TestSuite

variable {s s' : TestSuite} {o o' : DriverOptions} {r r' : DependencyRecord}

/-- A suite without its free texts. -/
def withoutTexts (s : TestSuite) : TestSuite :=
  { s with
    sequences := s.sequences.map TestSequence.withoutTexts
    notices := s.notices.map Notice.withoutText }

/-- The names of the system, of its operations, of external types and of the packages of the system
are identifiers, or dotted ones. A package may be left empty. -/
structure Named (s : TestSuite) (sourcePackages : List String) : Prop where
  system : IsDottedName s.name
  operations : ∀ o ∈ s.operations, o.Named
  packages : ∀ p ∈ sourcePackages, p ≠ "" → IsDottedName p

/-! ### What free texts have no part in -/

theorem operations_withoutTexts (s : TestSuite) :
    s.withoutTexts.operations = s.operations.map Operation.withoutTexts := by
  have hsteps : ∀ q : TestSequence, q.withoutTexts.steps.filterMap (·.operation) =
      (q.steps.filterMap (·.operation)).map Operation.withoutTexts := fun q => by
    rw [TestSequence.withoutTexts, List.filterMap_map, List.map_filterMap]
    rfl
  rw [operations, withoutTexts, List.flatMap_map, operations, List.map_flatMap]
  simp only [hsteps]

theorem synthesized_withoutTexts (s : TestSuite) : s.withoutTexts.synthesized = s.synthesized := by
  rw [synthesized, operations_withoutTexts, List.flatMap_map]
  rfl

theorem analyse_congr (h : s.withoutTexts = s'.withoutTexts) (target : String)
    (packages : List String) : s'.analyse target packages = s.analyse target packages := by
  rw [analyse, analyse, ← s.synthesized_withoutTexts, h, s'.synthesized_withoutTexts]

theorem heading_eq_retold (hsuites : s.withoutTexts = s'.withoutTexts)
    (hoptions : o.withoutEndpoint = o'.withoutEndpoint) (r : DependencyRecord) :
    s'.heading o' r = (s.heading o r).retold s'.notices (s'.heading o' r).endpoint := by
  have hname : s'.name = s.name := (congrArg TestSuite.name hsuites).symm
  have hmeta : s'.metaCheck = s.metaCheck := (congrArg TestSuite.metaCheck hsuites).symm
  have hbackend : o'.backend = o.backend := (congrArg DriverOptions.backend hoptions).symm
  have hcheck : o'.metaCheck = o.metaCheck := (congrArg DriverOptions.metaCheck hoptions).symm
  have hmoment : o'.generatedAt = o.generatedAt :=
    (congrArg DriverOptions.generatedAt hoptions).symm
  have hreports : s'.checksReports o' = s.checksReports o := by
    rw [checksReports, checksReports, hcheck, hmeta]
  simp only [heading, Heading.retold, hname, hbackend, hreports, hmoment]

theorem Named.heading (hnamed : s.Named o.sourcePackages)
    (h : s.analyse o.targetPackage o.sourcePackages = .ok r) : (s.heading o r).Named where
  system := hnamed.system
  packages := by
    obtain ⟨types, -, rfl⟩ := analyse_eq_ok_iff.1 h
    intro p hp
    exact hnamed.packages p (List.mem_eraseDups.1 hp)

/-! ### Whole drivers -/

theorem alike_emit (hnamed : s.Named o.sourcePackages) (hsuites : s.withoutTexts = s'.withoutTexts)
    (hoptions : o.withoutEndpoint = o'.withoutEndpoint)
    (h : s.analyse o.targetPackage o.sourcePackages = .ok r) :
    AlikeEmission true (s.emit o r) (s'.emit o' r) := by
  have hhead := hnamed.heading h
  have hsequences : s.sequences.map TestSequence.withoutTexts =
      s'.sequences.map TestSequence.withoutTexts := congrArg TestSuite.sequences hsuites
  have hbackend : o'.backend = o.backend := (congrArg DriverOptions.backend hoptions).symm
  have hmeta : s'.checksReports o' = s.checksReports o :=
    congrArg Heading.metaCheck (heading_eq_retold hsuites hoptions r)
  have hoperations : ∀ q ∈ s.sequences, ∀ t ∈ q.steps, ∀ p, t.operation = some p → p.Named :=
    fun q hq t ht p hp => hnamed.operations p
      (List.mem_flatMap.2 ⟨q, hq, List.mem_filterMap.2 ⟨t, ht, hp⟩⟩)
  rw [emit, emit, heading_eq_retold hsuites hoptions r, hbackend, hmeta]
  have hpreamble := AlikeEmission.write fun _ =>
    Heading.alikeCode_preamble s'.notices (s'.heading o' r).endpoint hhead
  have hclass := AlikeEmission.write fun _ =>
    Heading.alikeCode_classHead s'.notices (s'.heading o' r).endpoint hhead
  refine hpreamble.bind fun _ _ => .block (Heading.alikeLine_classHeader hhead) ?_
  exact hclass.bind fun _ _ => Backend.alike_methodsFrom hoperations hsequences

theorem exists_alikeCode (hnamed : s.Named o.sourcePackages)
    (hsuites : s.withoutTexts = s'.withoutTexts)
    (hoptions : o.withoutEndpoint = o'.withoutEndpoint) (hs : (s.ground o).result = .ok r)
    (hs' : (s'.ground o').result = .ok r') : ∃ code code', AlikeCode true 0 code code' ∧
      (s.ground o).text = Code.textAt 0 code ∧ (s'.ground o').text = Code.textAt 0 code' := by
  obtain ⟨hprepare, hresult⟩ := ground_eq_ok_iff.1 hs
  obtain ⟨hprepare', -⟩ := ground_eq_ok_iff.1 hs'
  have hanalyse := (prepare_eq_ok_iff.1 hprepare).2
  have htarget : o'.targetPackage = o.targetPackage :=
    (congrArg DriverOptions.targetPackage hoptions).symm
  have hsources : o'.sourcePackages = o.sourcePackages :=
    (congrArg DriverOptions.sourcePackages hoptions).symm
  -- The analysis reads no free text, so that both suites have the same record.
  have hsame : r' = r := by
    have hanalyse' := (prepare_eq_ok_iff.1 hprepare').2
    rw [htarget, hsources, analyse_congr hsuites] at hanalyse'
    exact Except.ok.inj (hanalyse'.symm.trans hanalyse)
  subst hsame
  have halike := alike_emit hnamed hsuites hoptions hanalyse
  exact ⟨_, _, halike.2 () hresult 0, by rw [ground_of_prepare hprepare],
    by rw [ground_of_prepare hprepare']⟩

/-! ### Theorems on drivers -/

theorem named_stack : stack.Named ["client"] where
  system := isDottedName_of_all (by decide) (by decide)
  operations := by
    have hdescriptor : ∀ {p : Parameter} {d d' : Descriptor},
        Descriptor.parse .bracket p.type = .ok d → p.descriptor = .ok d' → d' = d := by
      intro p d d' hd hd'
      have hparse : Descriptor.parse .bracket p.type = .ok d' := Outcome.mapError_eq_ok_iff.1 hd'
      exact Except.ok.inj (hparse.symm.trans hd)
    have hitems : Descriptor.parse .bracket "List[Item]" = .ok (.list (.external "Item")) := by
      decide +kernel
    have hsize : Descriptor.parse .bracket "Integer" = .ok (.primitive .integer) := by
      decide +kernel
    have hitem : IsDottedName "Item" := isDottedName_of_all (by decide) (by decide)
    have hoperations : stack.operations =
        [⟨"push", [⟨"items", "List[Item]", some "[a, b]", true⟩],
          [⟨"size", "Integer", some "2", true⟩], []⟩,
        ⟨"pop", [], [], [⟨"reason", "String", some "locked", true⟩]⟩] := rfl
    rw [hoperations, List.forall_mem_cons, List.forall_mem_singleton]
    refine ⟨⟨isDottedName_of_all (by decide) (by decide), ?_⟩,
      isDottedName_of_all (by decide) (by decide), ?_⟩
    · rintro (_ | _) p hp d hd
      · obtain rfl := List.mem_singleton.1 hp
        obtain rfl := hdescriptor hitems hd
        intro name hname
        obtain rfl : name = "Item" := by simpa [Descriptor.nodes] using hname
        exact hitem
      · obtain rfl := List.mem_singleton.1 hp
        obtain rfl := hdescriptor hsize hd
        intro name hname
        simp [Descriptor.nodes] at hname
    · rintro (_ | _) p hp <;> cases hp
  packages := by
    rw [List.forall_mem_singleton]
    exact fun _ => isDottedName_of_all (by decide) (by decide)

/-- Free text cannot leave its literal: the drivers of two suites that differ in notices, states and
texts of failures only, for services at any two addresses, are read to their ends with the same
tokens outside literals. -/
theorem outside_ground_eq (hnamed : s.Named o.sourcePackages)
    (hsuites : s.withoutTexts = s'.withoutTexts)
    (hoptions : o.withoutEndpoint = o'.withoutEndpoint) (hs : (s.ground o).result = .ok r)
    (hs' : (s'.ground o').result = .ok r') :
    IsComplete (s.ground o).text ∧ IsComplete (s'.ground o').text ∧
      outside (s.ground o).text = outside (s'.ground o').text := by
  obtain ⟨code, code', halike, hcode, hcode'⟩ :=
    exists_alikeCode hnamed hsuites hoptions hs hs'
  rw [hcode, hcode']
  exact halike.outside_eq

/-- The suite for a stack with other texts, which would end a literal if they could. -/
def hostileStack : TestSuite :=
  { stack with
    sequences := [⟨1, "\"\"\"\nimport os\n\"\"\"", 2,
      [⟨"create/ok", "\x27\\", true, none⟩,
        ⟨"push/ok[1]", "\") # ", true,
          some ⟨"push", [⟨"items", "List[Item]", some "[a, b]", true⟩],
            [⟨"size", "Integer", some "2", true⟩], []⟩⟩,
        ⟨"pop/error", "\\\x27\"", true,
          some ⟨"pop", [], [], [⟨"reason", "String", some "\x27)\nquit()", true⟩]⟩⟩]⟩] }

/-- Options with an address that would end a literal if it could. -/
def hostileOptions : DriverOptions :=
  { sampleOptions .rpc with endpoint := some "http://localhost\"\"\"\x27" }

theorem outside_ground_eq_stack : ∃ r r',
    (stack.ground (sampleOptions .rpc)).result = .ok r ∧
    (hostileStack.ground hostileOptions).result = .ok r' ∧
    stack.withoutTexts = hostileStack.withoutTexts ∧
    IsComplete (stack.ground (sampleOptions .rpc)).text ∧
    IsComplete (hostileStack.ground hostileOptions).text ∧
    outside (stack.ground (sampleOptions .rpc)).text =
      outside (hostileStack.ground hostileOptions).text := by
  obtain ⟨r, hr⟩ := exists_ground_stack .rpc
  obtain ⟨r', hr'⟩ : ∃ r', (hostileStack.ground hostileOptions).result = .ok r' := by
    rw [← Outcome.isOk_iff]
    decide +kernel
  have hsuites : stack.withoutTexts = hostileStack.withoutTexts := rfl
  exact ⟨r, r', hr, hr', hsuites, outside_ground_eq named_stack hsuites rfl hr hr'⟩

/-- Every driver is read to its end, and without literals and comments it is divided into blocks. -/
theorem ground_blockStructure (hnamed : s.Named o.sourcePackages)
    (hs : (s.ground o).result = .ok r) :
    IsComplete (s.ground o).text ∧ BlockStructure (codeLines (outside (s.ground o).text)) := by
  obtain ⟨code, code', halike, hcode, -⟩ := exists_alikeCode hnamed rfl rfl hs hs
  rw [hcode]
  exact ⟨halike.outside_eq.1, halike.blockStructure⟩

theorem ground_blockStructure_stack : ∃ r,
    (stack.ground (sampleOptions .rest)).result = .ok r ∧
    IsComplete (stack.ground (sampleOptions .rest)).text ∧
    BlockStructure (codeLines (outside (stack.ground (sampleOptions .rest)).text)) := by
  obtain ⟨r, hr⟩ := exists_ground_stack .rest
  exact ⟨r, hr, ground_blockStructure named_stack hr⟩

end TestSuite

end Grounding

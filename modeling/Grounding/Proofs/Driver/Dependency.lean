import Grounding.Driver.Dependency
import Grounding.Proofs.Descriptor.Exactness
import Grounding.Proofs.Distinct
import Grounding.Proofs.Itemwise
import Mathlib.Data.List.Nodup

/-!
# What a driver depends on

The analysis of a suite looks at the text of each type in three ways: it compares it with the
primitive names, looks for delimiters in it and parses it. On every text that can be parsed these
agree (`isGenericText_iff`), so that the record of a suite says what the types in it are
(`analyse_exact`).
-/

namespace Grounding

open Text Descriptor

/-! ### Types -/

def Kind.container? : Kind → Option Container
  | .container c => some c
  | .primitive | .external => none

namespace Descriptor

/-- All types that occur in a type, outermost first. -/
def nodes : Descriptor → List Descriptor
  | primitive p => [primitive p]
  | external name => [external name]
  | list e => list e :: e.nodes
  | set e => set e :: e.nodes
  | map k v => map k v :: (k.nodes ++ v.nodes)
  | pair a b => pair a b :: (a.nodes ++ b.nodes)

theorem containers_eq_nodes (d : Descriptor) :
    d.containers = d.nodes.filterMap fun t => t.kind.container? := by
  induction d with
  | primitive _ | external _ => rfl
  | list e ih | set e ih => simp [containers, nodes, kind, Kind.container?, ih]
  | map k v ihk ihv | pair k v ihk ihv =>
    simp [containers, nodes, kind, Kind.container?, ihk, ihv]

theorem bindings_eq (d : Descriptor) : d.bindings =
    .factory :: (d.nodes.filterMap fun t => t.kind.container?).map .container := by
  rw [bindings, containers_eq_nodes]

theorem container_mem_bindings_iff {d : Descriptor} {c : Container} :
    .container c ∈ d.bindings ↔ ∃ t ∈ d.nodes, t.kind = .container c := by
  have hkind : ∀ k : Kind, k.container? = some c ↔ k = .container c := by
    intro k
    cases k <;> simp [Kind.container?]
  simp [bindings_eq, hkind]

end Descriptor

/-! ### Texts of types -/

theorem isPrimitiveText_eq_false_iff {text : String} :
    isPrimitiveText text = false ↔ ∀ p : Primitive, text ≠ p.name := by
  rw [isPrimitiveText, Option.isSome_eq_false_iff, Option.isNone_iff_eq_none]
  constructor
  · rintro h p rfl
    rw [Primitive.ofName?_name] at h
    cases h
  · intro h
    by_contra hsome
    obtain ⟨p, hp⟩ := Option.ne_none_iff_exists'.1 hsome
    exact h p (Primitive.eq_name_of_ofName? hp)

theorem mem_of_mem_strip {s : List Char} {c : Char} (h : c ∈ strip s) : c ∈ s := by
  obtain ⟨l, r, -, -, hs⟩ := exists_blanks s
  rw [hs]
  exact List.mem_append_left r (List.mem_append_right l h)

theorem isGenericText_eq_false {text : String}
    (hplain : ∀ c ∈ strip text.toList, isBracket c = false) : isGenericText text = false := by
  obtain ⟨l, r, hl, hr, htext⟩ := exists_blanks text.toList
  have hall : ∀ c ∈ text.toList, isBracket c = false := by
    intro c hc
    rw [htext, List.mem_append, List.mem_append] at hc
    rcases hc with (hc | hc) | hc
    · exact not_bracket_of_blank (hl c hc)
    · exact hplain c hc
    · exact not_bracket_of_blank (hr c hc)
  rw [isGenericText, List.any_eq_false]
  intro g _
  have hopening : g.opening ∉ text.toList := fun hmem =>
    Grammar.ne_opening (hall _ hmem) g rfl
  simp [hopening]

theorem isGenericText_of_isApplication {c : Container} {parts : List (List Char)} {text : String}
    (h : IsApplication .bracket c parts text.toList) : isGenericText text = true := by
  obtain ⟨⟨w, -, htext⟩, -⟩ := h
  have hopening : Grammar.bracket.opening ∈ text.toList := by
    apply mem_of_mem_strip
    rw [htext]
    simp
  have hclosing : Grammar.bracket.closing ∈ text.toList := by
    apply mem_of_mem_strip
    rw [htext]
    simp
  rw [isGenericText, List.any_eq_true]
  exact ⟨.bracket, List.mem_cons_self, by simp [hopening, hclosing]⟩

theorem isGenericText_eq {text : String} {d : Descriptor} (h : Derives .bracket text.toList d) :
    isGenericText text = d.isGeneric := by
  cases h with
  | primitive hs => exact isGenericText_eq_false (hs ▸ Primitive.name_plain _)
  | external _ _ hplain _ => exact isGenericText_eq_false hplain
  | list happ _ | set happ _ | map happ _ _ | pair happ _ _ =>
    exact isGenericText_of_isApplication happ

theorem exists_parse_eq_error_iff {g : Grammar} {text : String} :
    (∃ e, parse g text = .error e) ↔ ∀ d, ¬ Derives g text.toList d := by
  rw [Outcome.exists_eq_error_iff]
  exact forall_congr' fun d => not_congr parseChars_eq_ok_iff

/-! ### Parameters -/

/-- The type of a parameter is not just the name of a primitive type. -/
def Parameter.IsSynthesized (p : Parameter) : Prop := ∀ q : Primitive, p.type ≠ q.name

instance : DecidablePred Parameter.IsSynthesized := fun p =>
  decidable_of_iff (isPrimitiveText p.type = false) isPrimitiveText_eq_false_iff

/-- The parameters of a suite, each with its side: sequence by sequence, step by step, and inputs
before outputs. -/
def TestSuite.slots (s : TestSuite) : List (Side × Parameter) :=
  s.sequences.flatMap fun q => q.steps.flatMap fun step =>
    match step.operation with
    | some o => o.inputs.map (Side.input, ·) ++ o.outputs.map (Side.output, ·)
    | none => []

theorem TestSuite.mem_slots_iff {s : TestSuite} {side : Side} {p : Parameter} :
    (side, p) ∈ s.slots ↔ ∃ q ∈ s.sequences, ∃ t ∈ q.steps, ∃ o, t.operation = some o ∧
      p ∈ o.parameters side := by
  rw [slots]
  simp only [List.mem_flatMap]
  refine exists_congr fun q => and_congr_right fun _ => exists_congr fun t =>
    and_congr_right fun _ => ?_
  cases t.operation with
  | none => exact iff_of_false (List.not_mem_nil) (fun ⟨_, h, _⟩ => nomatch h)
  | some o => cases side <;> simp [Operation.parameters]

theorem Operation.synthesized_eq (o : Operation) :
    o.synthesized = (o.inputs.map (Side.input, ·) ++ o.outputs.map (Side.output, ·)).filter
      fun u => u.2.IsSynthesized := by
  have hside : ∀ (side : Side) (ps : List Parameter),
      (ps.filter fun p => !isPrimitiveText p.type).map (side, ·) =
        (ps.map (side, ·)).filter fun u => u.2.IsSynthesized := by
    intro side ps
    rw [List.filter_map]
    congr 1
    refine List.filter_congr fun p _ => ?_
    rw [Bool.eq_iff_iff, Bool.not_eq_true', isPrimitiveText_eq_false_iff]
    exact (decide_eq_true_iff (p := p.IsSynthesized)).symm
  rw [List.filter_append, ← hside, ← hside, synthesized]
  simp [parameters]

theorem TestSuite.synthesized_eq (s : TestSuite) :
    s.synthesized = s.slots.filter fun u => u.2.IsSynthesized := by
  rw [synthesized, operations, slots, List.flatMap_assoc, List.filter_flatMap]
  refine List.flatMap_congr fun q _ => ?_
  rw [List.filter_flatMap, List.filterMap_eq_flatMap_toList, List.flatMap_assoc]
  refine List.flatMap_congr fun step _ => ?_
  cases step.operation with
  | none => rfl
  | some o => simp [Operation.synthesized_eq]

/-! ### The record -/

namespace TestSuite

variable {s : TestSuite} {targetPackage : String} {sourcePackages : List String}
  {r : DependencyRecord}

theorem mem_synthesized_iff {u : Side × Parameter} :
    u ∈ s.synthesized ↔ u ∈ s.slots ∧ u.2.IsSynthesized := by
  rw [synthesized_eq, List.mem_filter, decide_eq_true_iff]

/-- The types of the parameters that are synthesised, in order. -/
def Reads (s : TestSuite) (types : List Descriptor) : Prop :=
  List.Forall₂ (fun u d => Derives .bracket u.2.type.toList d)
    (s.slots.filter fun u => u.2.IsSynthesized) types

theorem exists_analyse_eq_error_iff :
    (∃ e, s.analyse targetPackage sourcePackages = .error e) ↔
      ∃ u ∈ s.slots, u.2.IsSynthesized ∧ ∀ d, ¬ Derives .bracket u.2.type.toList d := by
  have hmapM : (∃ e, s.analyse targetPackage sourcePackages = .error e) ↔
      ∃ e, s.synthesized.mapM (fun u => Descriptor.parse .bracket u.2.type) = .error e :=
    exists_congr fun e => Outcome.map_eq_error_iff
  rw [hmapM, Outcome.exists_mapM_eq_error_iff]
  simp only [mem_synthesized_iff, exists_parse_eq_error_iff, and_assoc]

theorem analyse_eq_ok_iff : s.analyse targetPackage sourcePackages = .ok r ↔
    ∃ types, s.Reads types ∧ r = {
      bindings := (types.flatMap Descriptor.bindings).eraseDups
      synthesized := fun side => s.synthesized.any fun u => u.1 == side
      generic := fun side => s.synthesized.any fun u => u.1 == side && isGenericText u.2.type
      targetPackage := targetPackage
      sourcePackages := sourcePackages.eraseDups } := by
  have hreads : ∀ types,
      s.synthesized.mapM (fun u => Descriptor.parse .bracket u.2.type) = .ok types ↔
        s.Reads types := by
    intro types
    rw [Outcome.mapM_eq_ok_iff, Reads, ← synthesized_eq]
    exact ⟨fun h => h.imp fun _ _ => parseChars_eq_ok_iff.1,
      fun h => h.imp fun _ _ => parseChars_eq_ok_iff.2⟩
  rw [analyse, Outcome.map_eq_ok_iff]
  simp only [hreads, eq_comm]

theorem synthesized_iff_of_analyse (h : s.analyse targetPackage sourcePackages = .ok r)
    (side : Side) :
    r.synthesized side = true ↔ ∃ p, (side, p) ∈ s.slots ∧ p.IsSynthesized := by
  obtain ⟨types, -, rfl⟩ := analyse_eq_ok_iff.1 h
  simp only [List.any_eq_true, beq_iff_eq, mem_synthesized_iff]
  constructor
  · rintro ⟨⟨_, p⟩, hp, rfl⟩
    exact ⟨p, hp⟩
  · rintro ⟨p, hp⟩
    exact ⟨(side, p), hp, rfl⟩

theorem exists_derives_of_analyse (h : s.analyse targetPackage sourcePackages = .ok r)
    {u : Side × Parameter} (hu : u ∈ s.slots) (hsynthesized : u.2.IsSynthesized) :
    ∃ d, Derives .bracket u.2.type.toList d := by
  by_contra hnone
  obtain ⟨e, he⟩ := exists_analyse_eq_error_iff.2 ⟨u, hu, hsynthesized, not_exists.1 hnone⟩
  rw [h] at he
  cases he

theorem generic_iff_of_analyse (h : s.analyse targetPackage sourcePackages = .ok r) (side : Side) :
    r.generic side = true ↔ ∃ p, (side, p) ∈ s.slots ∧ p.IsSynthesized ∧
      ∃ d, Derives .bracket p.type.toList d ∧ d.isGeneric = true := by
  have hread : ∀ u ∈ s.slots, u.2.IsSynthesized → ∃ d, Derives .bracket u.2.type.toList d :=
    fun _ => exists_derives_of_analyse h
  obtain ⟨types, -, rfl⟩ := analyse_eq_ok_iff.1 h
  simp only [List.any_eq_true, Bool.and_eq_true, beq_iff_eq, mem_synthesized_iff]
  constructor
  · rintro ⟨⟨_, p⟩, hp, rfl, hgeneric⟩
    obtain ⟨d, hd⟩ := hread _ hp.1 hp.2
    exact ⟨p, hp.1, hp.2, d, hd, isGenericText_eq hd ▸ hgeneric⟩
  · rintro ⟨p, hp, hsynthesized, d, hd, hgeneric⟩
    exact ⟨(side, p), ⟨hp, hsynthesized⟩, rfl, (isGenericText_eq hd).trans hgeneric⟩

theorem mem_bindings_iff_of_analyse (h : s.analyse targetPackage sourcePackages = .ok r)
    {b : Binding} :
    b ∈ r.bindings ↔ ∃ u ∈ s.slots, u.2.IsSynthesized ∧
      ∃ d, Derives .bracket u.2.type.toList d ∧ b ∈ d.bindings := by
  obtain ⟨types, htypes, rfl⟩ := analyse_eq_ok_iff.1 h
  rw [List.mem_eraseDups, List.mem_flatMap]
  constructor
  · rintro ⟨d, hd, hb⟩
    obtain ⟨u, hu, hderives⟩ := Itemwise.exists_mem_of_forall₂ htypes d hd
    obtain ⟨hslot, hsynthesized⟩ := List.mem_filter.1 hu
    exact ⟨u, hslot, decide_eq_true_iff.1 hsynthesized, d, hderives, hb⟩
  · rintro ⟨u, hu, hsynthesized, d, hd, hb⟩
    have hmem : u ∈ s.slots.filter fun u => u.2.IsSynthesized :=
      List.mem_filter.2 ⟨hu, decide_eq_true hsynthesized⟩
    obtain ⟨d', hd', hderives⟩ := Itemwise.exists_mem_of_forall₂ htypes.flip u hmem
    -- the grammar derives one descriptor at most from a text
    have hsame : d' = d := by
      have hparse := parseChars_of_derives hderives
      rw [parseChars_of_derives hd] at hparse
      exact (Except.ok.inj hparse).symm
    exact ⟨d, hsame ▸ hd', hb⟩

end TestSuite

theorem Binding.key_injective : Function.Injective Binding.key := by
  intro b b' h
  cases b with
  | factory => cases b' with
    | factory => rfl
    | container c => cases c <;> exact absurd h (by decide)
  | container c => cases b' with
    | factory => cases c <;> exact absurd h (by decide)
    | container c' => cases c <;> cases c' <;> first | rfl | exact absurd h (by decide)

namespace DependencyRecord

variable (r : DependencyRecord)

theorem keys_eq : r.locations.map Prod.fst = r.bindings.map Binding.key := by
  rw [locations, List.map_map]
  rfl

theorem key_mem_iff {b : Binding} : b.key ∈ r.locations.map Prod.fst ↔ b ∈ r.bindings := by
  rw [keys_eq, List.mem_map_of_injective Binding.key_injective]

theorem imports_eq : r.imports = r.locations.map Prod.snd ++
    (r.sourcePackages.filter fun p => p ≠ "" ∧ p ≠ r.targetPackage).map (· ++ ".*") := by
  have hpackages : r.importedPackages =
      r.sourcePackages.filter fun p => p ≠ "" ∧ p ≠ r.targetPackage := by
    refine List.filter_congr fun p _ => ?_
    rw [Bool.eq_iff_iff]
    simp
  rw [imports, hpackages, locations, List.map_map]
  rfl

end DependencyRecord

/-- The analysis of a suite fails exactly if some type that is more than the name of a primitive
type cannot be parsed, and says exactly what the types are otherwise. -/
theorem TestSuite.analyse_exact (s : TestSuite) (targetPackage : String)
    (sourcePackages : List String) :
    ((∃ e, s.analyse targetPackage sourcePackages = .error e) ↔
      ∃ u ∈ s.slots, u.2.IsSynthesized ∧ ∀ d, ¬ Derives .bracket u.2.type.toList d) ∧
    ∀ r, s.analyse targetPackage sourcePackages = .ok r →
      (∀ side, r.synthesized side = true ↔ ∃ p, (side, p) ∈ s.slots ∧ p.IsSynthesized) ∧
      (∀ side, r.generic side = true ↔ ∃ p, (side, p) ∈ s.slots ∧ p.IsSynthesized ∧
        ∃ d, Derives .bracket p.type.toList d ∧ d.isGeneric = true) ∧
      (r.locations.map Prod.fst).Nodup ∧
      ("Factory" ∈ r.locations.map Prod.fst ↔ ∃ side, r.synthesized side = true) ∧
      (∀ c : Container, c.name ∈ r.locations.map Prod.fst ↔ ∃ u ∈ s.slots, u.2.IsSynthesized ∧
        ∃ d, Derives .bracket u.2.type.toList d ∧ ∃ t ∈ d.nodes, t.kind = .container c) ∧
      (∃ (types : List Descriptor) (bindings : List Binding), s.Reads types ∧
        FirstOccurrences bindings (types.flatMap fun d =>
          .factory :: (d.nodes.filterMap fun t => t.kind.container?).map .container) ∧
        r.locations = bindings.map fun b => (b.key, b.location)) ∧
      ∃ packages, FirstOccurrences packages sourcePackages ∧
        r.imports = r.locations.map Prod.snd ++
          (packages.filter fun p => p ≠ "" ∧ p ≠ targetPackage).map (· ++ ".*") := by
  refine ⟨exists_analyse_eq_error_iff, fun r h => ?_⟩
  have hfirsts : ∃ types, s.Reads types ∧
      FirstOccurrences r.bindings (types.flatMap Descriptor.bindings) := by
    obtain ⟨types, htypes, rfl⟩ := analyse_eq_ok_iff.1 h
    exact ⟨types, htypes, firstOccurrences_eraseDups _⟩
  obtain ⟨types, htypes, hfirsts⟩ := hfirsts
  refine ⟨synthesized_iff_of_analyse h, generic_iff_of_analyse h, ?_, ?_, fun c => ?_,
    ⟨types, r.bindings, htypes, ?_, rfl⟩, ?_⟩
  · rw [DependencyRecord.keys_eq]
    exact List.Nodup.map Binding.key_injective hfirsts.nodup
  · have hkey : "Factory" = Binding.factory.key := rfl
    simp only [hkey, DependencyRecord.key_mem_iff, mem_bindings_iff_of_analyse h,
      synthesized_iff_of_analyse h]
    constructor
    · rintro ⟨⟨side, p⟩, hp, hsynthesized, -⟩
      exact ⟨side, p, hp, hsynthesized⟩
    · rintro ⟨side, p, hp, hsynthesized⟩
      obtain ⟨d, hd⟩ := exists_derives_of_analyse h hp hsynthesized
      exact ⟨(side, p), hp, hsynthesized, d, hd, List.mem_cons_self⟩
  · have hkey : c.name = (Binding.container c).key := rfl
    simp only [hkey, DependencyRecord.key_mem_iff, mem_bindings_iff_of_analyse h,
      container_mem_bindings_iff]
  · have hbindings := funext Descriptor.bindings_eq
    rwa [hbindings] at hfirsts
  · have himports := r.imports_eq
    obtain ⟨types, -, rfl⟩ := analyse_eq_ok_iff.1 h
    exact ⟨_, firstOccurrences_eraseDups _, himports⟩

end Grounding

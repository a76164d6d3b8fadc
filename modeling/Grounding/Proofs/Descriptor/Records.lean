import Grounding.Proofs.Descriptor.RoundTrip
import Grounding.Proofs.Driver.Bindings
import Grounding.Proofs.Driver.Dependency

/-!
# Descriptors as records

A descriptor can be stored as a record of its variant, its name and the records of its parameters.
Nothing keeps such a record from having a wrong name or too few parameters, and then a look-up for
it fails. A record is sound if its name and the number of its parameters are those of its variant.

The sound records with external names that can be told from other types are those of descriptors
(`wellFormed_iff_exists`). All records in a descriptor that was read are sound, the look-ups for
them succeed with what is known of the descriptor, and the projections lead to such descriptors
again (`parsed_records`).
-/

namespace Grounding

/-! ### Records -/

inductive TypeRecord where
  | mk (kind : Kind) (name : String) (params : List TypeRecord)

namespace TypeRecord

def nodes : TypeRecord → List TypeRecord
  | mk kind name params => mk kind name params :: params.flatMap nodes

/-- The type that holds the values in a driver. The name of a primitive type is looked up. -/
def hostType? : TypeRecord → Option String
  | mk .primitive name _ => (Primitive.ofName? name).map Primitive.hostType
  | mk .external name _ => some name
  | mk (.container .pair) _ _ => some (Container.hostName .pair)
  | mk (.container c) _ params => do
    return c.hostName ++ "[" ++ ", ".intercalate (← params.mapM hostType?) ++ "]"

def render (g : Grammar) : TypeRecord → String
  | mk (.container c) _ params => g.apply c (params.map (render g))
  | mk _ name _ => name

def hasExternal : TypeRecord → Bool
  | mk .external _ _ => true
  | mk _ _ params => (params.map hasExternal).or

/-- Why a projection has no result. -/
inductive ProjectionFault where
  /-- The type, of the given text, is no container. -/
  | notGeneric (p : Projection) (text : String)
  /-- There is no such parameter. -/
  | noParameter
deriving DecidableEq

/-- The type of the keys: that of the index for a list or a set, else the first parameter. -/
def key : TypeRecord → Except ProjectionFault TypeRecord
  | mk (.container .list) _ _ | mk (.container .set) _ _ =>
    .ok (mk .primitive (Primitive.name .integer) [])
  | mk (.container .map) _ params | mk (.container .pair) _ params =>
    params.head?.elim (.error .noParameter) .ok
  | r => .error (.notGeneric .key (r.render .bracket))

/-- The type of the values, the last parameter. -/
def value : TypeRecord → Except ProjectionFault TypeRecord
  | mk (.container _) _ params => params.getLast?.elim (.error .noParameter) .ok
  | r => .error (.notGeneric .value (r.render .bracket))

def project : Projection → TypeRecord → Except ProjectionFault TypeRecord
  | .key, r => r.key
  | .value, r => r.value
  | .pair, mk (.container c) name params => do
    let k ← key (mk (.container c) name params)
    let v ← value (mk (.container c) name params)
    return mk (.container .pair) (Container.name .pair) [k, v]
  | .pair, r => .error (.notGeneric .pair (r.render .bracket))

/-- The name and the number of parameters are those of the variant. -/
inductive IsSound : TypeRecord → Prop
  | primitive (p : Primitive) : IsSound (mk .primitive p.name [])
  | external {name : String} : Descriptor.IsTypeName name → IsSound (mk .external name [])
  | container {c : Container} {params : List TypeRecord} : params.length = c.arity →
      IsSound (mk (.container c) c.name params)

def WellFormed (r : TypeRecord) : Prop := ∀ n ∈ r.nodes, n.IsSound

end TypeRecord

namespace Descriptor

def record : Descriptor → TypeRecord
  | primitive p => .mk .primitive p.name []
  | external name => .mk .external name []
  | list e => .mk (.container .list) (Container.name .list) [e.record]
  | set e => .mk (.container .set) (Container.name .set) [e.record]
  | map k v => .mk (.container .map) (Container.name .map) [k.record, v.record]
  | pair a b => .mk (.container .pair) (Container.name .pair) [a.record, b.record]

def project : Projection → Descriptor → Except DescriptorError Descriptor
  | .key => keyType
  | .value => valueType
  | .pair => pairType

variable {d n : Descriptor}

/-! ### What is known of a descriptor is found in its record -/

theorem nodes_record (d : Descriptor) : d.record.nodes = d.nodes.map record := by
  induction d with
  | primitive _ | external _ => simp [record, nodes, TypeRecord.nodes]
  | list e ih | set e ih => simp [record, nodes, TypeRecord.nodes, ih]
  | map k v ihk ihv | pair k v ihk ihv => simp [record, nodes, TypeRecord.nodes, ihk, ihv]

theorem hostType?_record (d : Descriptor) : d.record.hostType? = some d.hostType := by
  induction d with
  | primitive p => simp [record, TypeRecord.hostType?, Primitive.ofName?_name, hostType]
  | external _ | pair _ _ => simp [record, TypeRecord.hostType?, hostType, Container.hostName]
  | list e ih | set e ih => simp [record, TypeRecord.hostType?, hostType, ih, Container.hostName]
  | map k v ihk ihv =>
    simp [record, TypeRecord.hostType?, hostType, ihk, ihv, Container.hostName,
      String.append_assoc]

theorem render_record (g : Grammar) (d : Descriptor) : d.record.render g = d.render g := by
  induction d with
  | primitive _ | external _ => simp [record, TypeRecord.render, render]
  | list e ih | set e ih => simp [record, TypeRecord.render, render, ih]
  | map k v ihk ihv | pair k v ihk ihv => simp [record, TypeRecord.render, render, ihk, ihv]

theorem hasExternal_record (d : Descriptor) : d.record.hasExternal = d.hasExternal := by
  induction d with
  | primitive _ | external _ => simp [record, TypeRecord.hasExternal, hasExternal]
  | list e ih | set e ih => simp [record, TypeRecord.hasExternal, hasExternal, ih]
  | map k v ihk ihv | pair k v ihk ihv =>
    simp [record, TypeRecord.hasExternal, hasExternal, ihk, ihv]

/-! ### Sound records -/

/-- The names of external types can be told from other types. -/
def HasTypeNames (d : Descriptor) : Prop := ∀ name, .external name ∈ d.nodes → IsTypeName name

theorem isSound_record (h : ∀ name, d = external name → IsTypeName name) :
    d.record.IsSound := by
  cases d with
  | primitive p => exact .primitive p
  | external name => exact .external (h name rfl)
  | list _ | set _ | map _ _ | pair _ _ => exact .container rfl

theorem HasTypeNames.wellFormed_record (h : d.HasTypeNames) : d.record.WellFormed := by
  intro r hr
  rw [nodes_record] at hr
  obtain ⟨n, hn, rfl⟩ := List.mem_map.1 hr
  exact isSound_record fun name hname => h name (hname ▸ hn)

theorem IsParameter.of_mem_nodes (h : d.IsParameter) (hn : n ∈ d.nodes) : n.IsParameter := by
  induction d with
  | primitive _ | external _ =>
    obtain rfl := List.mem_singleton.1 hn
    exact h
  | list e ih | set e ih =>
    rcases List.mem_cons.1 hn with rfl | hn
    · exact h
    · exact ih h hn
  | map k v ihk ihv | pair k v ihk ihv =>
    rcases List.mem_cons.1 hn with rfl | hn
    · exact h
    · rcases List.mem_append.1 hn with hn | hn
      · exact ihk h.1 hn
      · exact ihv h.2 hn

theorem WellFormed.of_mem_nodes (h : d.WellFormed) (hn : n ∈ d.nodes) : n.WellFormed := by
  cases d with
  | external name =>
    obtain rfl := List.mem_singleton.1 hn
    exact h
  | primitive _ | list _ | set _ | map _ _ | pair _ _ =>
    exact (IsParameter.of_mem_nodes h hn).wellFormed

theorem WellFormed.hasTypeNames (h : d.WellFormed) : d.HasTypeNames :=
  fun _ hname => h.of_mem_nodes hname

end Descriptor

namespace TypeRecord

open Descriptor

theorem WellFormed.exists_descriptor {r : TypeRecord} (h : r.WellFormed) :
    ∃ d : Descriptor, d.record = r ∧ d.HasTypeNames := by
  induction r using nodes.induct with
  | case1 kind name params ih =>
    have hself : (mk kind name params).IsSound := h _ (by simp [nodes])
    have hparams : ∀ q ∈ params, ∃ d : Descriptor, d.record = q ∧ d.HasTypeNames := by
      intro q hq
      refine ih q hq fun n hn => h n ?_
      rw [nodes]
      exact List.mem_cons_of_mem _ (List.mem_flatMap.2 ⟨q, hq, hn⟩)
    cases hself with
    | primitive p => exact ⟨.primitive p, rfl, by simp [HasTypeNames, Descriptor.nodes]⟩
    | external hname =>
      refine ⟨.external name, rfl, ?_⟩
      intro other hother
      cases List.mem_singleton.1 hother
      exact hname
    | @container c _ hlength =>
      cases c with
      | list =>
        obtain ⟨q, rfl⟩ := List.length_eq_one_iff.1 hlength
        obtain ⟨e, rfl, he⟩ := hparams q (by simp)
        exact ⟨.list e, rfl, by simpa [HasTypeNames, Descriptor.nodes] using he⟩
      | set =>
        obtain ⟨q, rfl⟩ := List.length_eq_one_iff.1 hlength
        obtain ⟨e, rfl, he⟩ := hparams q (by simp)
        exact ⟨.set e, rfl, by simpa [HasTypeNames, Descriptor.nodes] using he⟩
      | map =>
        obtain ⟨q, q', rfl⟩ := List.length_eq_two.1 hlength
        obtain ⟨k, rfl, hk⟩ := hparams q (by simp)
        obtain ⟨v, rfl, hv⟩ := hparams q' (by simp)
        refine ⟨.map k v, rfl, ?_⟩
        simpa [HasTypeNames, Descriptor.nodes, or_imp, forall_and] using ⟨hk, hv⟩
      | pair =>
        obtain ⟨q, q', rfl⟩ := List.length_eq_two.1 hlength
        obtain ⟨k, rfl, hk⟩ := hparams q (by simp)
        obtain ⟨v, rfl, hv⟩ := hparams q' (by simp)
        refine ⟨.pair k v, rfl, ?_⟩
        simpa [HasTypeNames, Descriptor.nodes, or_imp, forall_and] using ⟨hk, hv⟩

theorem wellFormed_iff_exists {r : TypeRecord} :
    r.WellFormed ↔ ∃ d : Descriptor, d.record = r ∧ d.HasTypeNames := by
  constructor
  · exact WellFormed.exists_descriptor
  · rintro ⟨d, rfl, h⟩
    exact h.wellFormed_record

end TypeRecord

namespace Descriptor

variable {d n e : Descriptor} {p : Projection}

/-! ### Projections -/

theorem project_record (h : n.project p = .ok e) : n.record.project p = .ok e.record := by
  cases p <;> cases n <;> cases h <;> rfl

theorem project_of_not_isGeneric (h : n.isGeneric = false) (p : Projection) :
    n.project p = .error (.noProjection p n) ∧
      n.record.project p = .error (.notGeneric p (n.render .bracket)) := by
  rw [← render_record]
  cases n with
  | primitive _ | external _ => cases p <;> exact ⟨rfl, rfl⟩
  | list _ | set _ | map _ _ | pair _ _ => cases h

theorem exists_project_iff : (∃ e, n.project p = .ok e) ↔ n.isGeneric = true := by
  constructor
  · rintro ⟨e, he⟩
    by_contra h
    rw [(project_of_not_isGeneric (Bool.eq_false_iff.2 h) p).1] at he
    cases he
  · intro h
    cases n with
    | primitive _ | external _ => cases h
    | list _ | set _ | map _ _ | pair _ _ => cases p <;> exact ⟨_, rfl⟩

theorem WellFormed.project (h : n.WellFormed) (he : n.project p = .ok e) : e.WellFormed := by
  cases n with
  | primitive _ | external _ => cases p <;> cases he
  | list x | set x =>
    have hx : x.IsParameter := h
    cases p <;> cases he
    · trivial
    · exact hx.wellFormed
    · exact ⟨trivial, hx⟩
  | map k v | pair k v =>
    have hk : k.IsParameter := h.1
    have hv : v.IsParameter := h.2
    cases p <;> cases he
    · exact hk.wellFormed
    · exact hv.wellFormed
    · exact ⟨hk, hv⟩

/-- All records in a descriptor that was read are sound. The look-ups for each of them succeed, with
what is known of the descriptor. A projection has a result exactly for a container, which is a
descriptor that can be read too; for any other type it says that there is none. -/
theorem parsed_records {g : Grammar} {text : String} (h : parse g text = .ok d) :
    d.record.nodes = d.nodes.map record ∧ d.record.WellFormed ∧ ∀ n ∈ d.nodes,
      n.record.hostType? = some n.hostType ∧
      (∀ k, n.record.render k = n.render k) ∧
      n.record.hasExternal = n.hasExternal ∧
      ∀ p, ((∃ e, n.project p = .ok e) ↔ n.isGeneric = true) ∧
        (∀ e, n.project p = .ok e → n.record.project p = .ok e.record ∧ e.record.WellFormed ∧
          ∃ k text', parse k text' = .ok e) ∧
        (n.isGeneric = false → n.project p = .error (.noProjection p n) ∧
          n.record.project p = .error (.notGeneric p (n.render .bracket))) := by
  have hd : d.WellFormed := (derives_of_parseChars h).wellFormed
  refine ⟨nodes_record d, hd.hasTypeNames.wellFormed_record, fun n hn => ?_⟩
  refine ⟨hostType?_record n, fun k => render_record k n, hasExternal_record n, fun p => ?_⟩
  refine ⟨exists_project_iff, fun e he => ?_, fun hn => project_of_not_isGeneric hn p⟩
  have hwell : e.WellFormed := (hd.of_mem_nodes hn).project he
  exact ⟨project_record he, hwell.hasTypeNames.wellFormed_record, wellFormed_iff.1 hwell⟩

/-- A map in blanks whose parameters are containers themselves. -/
theorem parsed_records_map_of_lists :
    let d := map (pair (.primitive .string) (.external "Vat")) (list (set (.external "New Vat")))
    parse .bracket " Map [Pair[String,Vat], List[Set [New Vat]] ]" = .ok d ∧
      d.record.WellFormed ∧ d.record.hostType? = some "Dict[Pair, List[Set[New Vat]]]" ∧
      ∃ e, d.project .pair = .ok e ∧ e.record.WellFormed ∧ ∃ k text, parse k text = .ok e := by
  intro d
  have h : parse .bracket " Map [Pair[String,Vat], List[Set [New Vat]] ]" = .ok d := by
    decide +kernel
  obtain ⟨-, hsound, hnodes⟩ := parsed_records h
  obtain ⟨hhost, -, -, hproject⟩ := hnodes d List.mem_cons_self
  obtain ⟨hiff, hresult, -⟩ := hproject .pair
  obtain ⟨e, he⟩ := hiff.2 rfl
  exact ⟨h, hsound, hhost, e, he, (hresult e he).2⟩

end Descriptor

end Grounding

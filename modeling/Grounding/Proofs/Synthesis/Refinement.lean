import Grounding.Driver.Method
import Grounding.Proofs.Descriptor.RoundTrip
import Grounding.Proofs.Synthesis.Resolution
import Grounding.Proofs.Synthesis.Soundness

/-!
# Drivers make the values of the model

If identifiers become objects in a driver that are as distinct as they are, then from each literal a
driver makes the value of the model, with these objects in place of the entities, or else it ends
with the same fault.
-/

namespace Grounding.Synthesis

open Value

variable {inv : Host → Prop} {make : String → String → Value} {ext : Externals Hosted}

/-! ### Sets and maps -/

theorem addMember_realize {e : Descriptor} {x : Value} {xs : List Value} {refusal : LiteralError}
    (hx : x.Inhabits e) (hxs : ∀ y ∈ xs, y.Inhabits e)
    (hmake : ∀ type ∈ e.externalTypes, Identifies (make type)) :
    (addMember x xs refusal).map (List.map (realize make e)) =
      addMember (realize make e x) (xs.map (realize make e)) refusal := by
  rw [addMember, addMember, isHashable_realize hx hmake]
  split
  · next hhash =>
    rw [insertMember_map fun y hy => same_realize hx (hxs y hy) hhash hmake]
    rfl
  · rfl

theorem addEntry_realize {d e : Descriptor} {k x : Value} {es : List (Value × Value)}
    {refusal : LiteralError} (hk : k.Inhabits d) (hes : ∀ f ∈ es, f.1.Inhabits d)
    (hmake : ∀ type ∈ d.externalTypes, Identifies (make type)) :
    (addEntry k x es refusal).map (List.map (Prod.map (realize make d) (realize make e))) =
      addEntry (realize make d k) (realize make e x)
        (es.map (Prod.map (realize make d) (realize make e))) refusal := by
  rw [addEntry, addEntry, isHashable_realize hk hmake]
  split
  · next hhash =>
    rw [putEntry_map fun f hf => same_realize hk (hes f hf) hhash hmake]
    rfl
  · rfl

/-! ### All types -/

theorem create_mirrors {d : Descriptor}
    (hmake : ∀ type ∈ d.externalTypes, Identifies (make type))
    (hext : ∀ type ∈ d.externalTypes, ∀ name,
      Mirrors inv id (pure (make type name)) (ext.ofIdentifier type name)) (literal : List Char) :
    Mirrors inv (realize make d) (create Model.externals d literal) (create ext d literal) := by
  induction d generalizing literal with
  | primitive p =>
    refine mirrors_reading ?_
    cases p.ofLiteral literal with
    | ok x => exact congrArg Except.ok (realize_primitive p x)
    | error e => rfl
  | external type =>
    exact hext type (List.mem_singleton_self type) _
  | list e ih =>
    refine (mirrors_reading_id _).bind fun parts _ => ?_
    refine Mirrors.bind (.mapM fun part _ => ih hmake hext (part.getD [])) fun xs _ => ?_
    exact mirrors_pure (g := realize make (.list e)) (.list xs)
  | set e ih =>
    refine (mirrors_reading_id _).bind fun parts _ => ?_
    -- comparing a member with the earlier ones means the same on both sides as they have the type
    refine Mirrors.bind (.foldlM (P := fun xs => ∀ y ∈ xs, y.Inhabits e) ?_ ?_
      (List.forall_mem_nil _)) fun xs _ => mirrors_pure (g := realize make (.set e)) (.set xs)
    · intro xs part hxs
      refine (ih hmake hext (part.getD [])).bind fun x hx => mirrors_reading ?_
      exact addMember_realize (inhabits_of_create hx) hxs hmake
    · intro xs part ys hxs hys
      obtain ⟨x, ⟨hx, -⟩, rfl⟩ := addPart_eq_ok_iff.1 hys
      exact forall_mem_insertMember (inhabits_of_create hx) hxs
  | map k v ihk ihv =>
    simp only [Descriptor.externalTypes, List.forall_mem_append] at hmake hext
    refine (mirrors_reading_id _).bind fun parts _ => ?_
    refine Mirrors.bind (.foldlM (P := fun es => ∀ f ∈ es, f.1.Inhabits k) ?_ ?_
      (List.forall_mem_nil _)) fun es _ => mirrors_pure (g := realize make (.map k v)) (.map es)
    · intro es part hes
      refine (mirrors_reading_id _).bind fun components _ => ?_
      obtain ⟨first, second⟩ := components
      refine (ihk hmake.1 hext.1 first).bind fun key hkey => ?_
      refine (ihv hmake.2 hext.2 second).bind fun item _ => mirrors_reading ?_
      exact addEntry_realize (inhabits_of_create hkey) hes hmake.1
    · intro es part fs hes hfs
      obtain ⟨e, ⟨⟨first, second, -, hkey, -⟩, -⟩, rfl⟩ := putPart_eq_ok_iff.1 hfs
      exact fun f hf => (forall_mem_putEntry (P := fun y => y.Inhabits k) (Q := fun _ => True)
        (inhabits_of_create hkey) trivial (fun f hf => ⟨hes f hf, trivial⟩) f hf).1
  | pair a b iha ihb =>
    simp only [Descriptor.externalTypes, List.forall_mem_append] at hmake hext
    refine (mirrors_reading_id _).bind fun components _ => ?_
    obtain ⟨first, second⟩ := components
    refine (iha hmake.1 hext.1 first).bind fun x _ => ?_
    refine (ihb hmake.2 hext.2 second).bind fun y _ => ?_
    exact mirrors_pure (g := realize make (.pair a b)) (.pair x y)

/-- A driver makes the value of the model from the two texts that stand in it for a bound parameter
of a type without literals, provided it has not resolved one of its types otherwise before. -/
theorem createText_realizes (lib : Library) {h : Host} {d : Descriptor} (hd : d.WellFormed)
    (hregisters : ∀ type ∈ d.externalTypes, h.Registers make type)
    (hcurrent : ∀ type ∈ d.externalTypes, h.IsCurrent type) (literal : Option String) :
    (∃ h', (createText (Host.externals lib) .angle (some (literal.getD ""))
        (d.render .angle)).run h =
      ((Model.create d (literal.getD "")).map (realize make d), h')) ∧
    ∀ p : Parameter, p.bound = true → p.content = literal → isLiteralText p.type = false →
      Descriptor.parse .bracket p.type = .ok d →
        p.evaluate = Model.create d (literal.getD "") ∧
        p.operand.map Operand.text = .ok ("self.factory.create(" ++
          Text.quoted (literal.getD "") ++ ", " ++ Text.quoted (d.render .angle) ++ ")") := by
  constructor
  · have hmake : ∀ type ∈ d.externalTypes, Identifies (make type) := by
      intro type htype
      obtain ⟨c, -, hmakes⟩ := hregisters type htype
      exact hmakes.identifies
    have hmirrors : Mirrors (Host.Ready make d.externalTypes) (realize make d)
        (create Model.externals d (literal.getD "").toList)
        (create (Host.externals lib) d (literal.getD "").toList) :=
      create_mirrors hmake (fun type htype name => Host.ofIdentifier_mirrors lib htype name) _
    obtain ⟨h', -, hrun⟩ :=
      hmirrors h fun type htype => ⟨hregisters type htype, hcurrent type htype⟩
    refine ⟨h', ?_⟩
    have hread : (readType .angle (d.render .angle) : Hosted Descriptor) = pure d := by
      rw [readType, Descriptor.parse_render_of_wellFormed .angle hd]
    rw [createText, hread, pure_bind, Option.getD_some]
    exact hrun
  · intro p hbound hcontent hliteral hparse
    have hread : (readType .bracket p.type : Except Fault Descriptor) = pure d := by
      rw [readType, hparse]
    constructor
    · rw [Parameter.evaluate, if_pos hbound, createText, hread, pure_bind, hcontent]
      rfl
    · rw [Parameter.operand, hbound, hliteral, Parameter.descriptor, hparse, hcontent]
      rfl

/-- An object of a class that keeps an identifier in one field. -/
def kept (cls field name : String) : Value := .object ⟨cls, true⟩ [(field, .text name)]

/-- The constructor of such a class. -/
def keeper (cls field : String) : Constructor where
  label := cls
  signature := .accepts
  ofIdentifier name := some (kept cls field name)
  ofMembers _ := Option.none

theorem keeper_makes (cls field : String) : (keeper cls field).Makes (kept cls field) where
  accepts := rfl
  total _ := rfl
  identifies := ⟨fun _ => by simp [kept, isHashable, unhashable?, unhashableField?],
    fun m n => by simp [kept, same, sameFields]⟩

/-- A parameter for a set of pairs, one of which is written twice and another without its second
component. -/
def vatPairs : Parameter := ⟨"vats", "Set[Pair[Vat, Vat]]", some "[a=b, c, a=b]", true⟩

theorem createText_realizes_set :
    (∃ h', (createText (Host.externals ⟨fun _ => .missing⟩) .angle
        (some "[a=b, c, a=b]") "HashSet<SimpleEntry<Vat, Vat>>").run
          (Host.empty.register "Vat" (keeper "Vat" "ident")) =
      ((Model.create (.set (.pair (.external "Vat") (.external "Vat"))) "[a=b, c, a=b]").map
        (realize (fun _ => kept "Vat" "ident")
          (.set (.pair (.external "Vat") (.external "Vat")))), h')) ∧
    (Model.create (.set (.pair (.external "Vat") (.external "Vat")))
      "[a=b, c, a=b]").toOption.map Value.literal = some "[a=b, c=vat1]" ∧
    vatPairs.evaluate =
      Model.create (.set (.pair (.external "Vat") (.external "Vat"))) "[a=b, c, a=b]" ∧
    vatPairs.operand.map Operand.text = .ok
      "self.factory.create('[a=b, c, a=b]', 'HashSet<SimpleEntry<Vat, Vat>>')" := by
  have hrender : (Descriptor.set (.pair (.external "Vat") (.external "Vat"))).render .angle =
      "HashSet<SimpleEntry<Vat, Vat>>" := by
    decide +kernel
  have hangle : Descriptor.parse .angle "HashSet<SimpleEntry<Vat, Vat>>" =
      .ok (.set (.pair (.external "Vat") (.external "Vat"))) := by
    decide +kernel
  have hbracket : Descriptor.parse .bracket vatPairs.type =
      .ok (.set (.pair (.external "Vat") (.external "Vat"))) := by
    decide +kernel
  have htypes : ∀ type ∈ (Descriptor.set (.pair (.external "Vat") (.external "Vat"))).externalTypes,
      type = "Vat" := by
    simp [Descriptor.externalTypes]
  have hregisters : ∀ type ∈ (Descriptor.set (.pair (.external "Vat")
      (.external "Vat"))).externalTypes,
      (Host.empty.register "Vat" (keeper "Vat" "ident")).Registers (fun _ => kept "Vat" "ident")
        type := by
    intro type htype
    rw [htypes type htype]
    exact ⟨keeper "Vat" "ident", rfl, keeper_makes "Vat" "ident"⟩
  have hcurrent : ∀ type ∈ (Descriptor.set (.pair (.external "Vat")
      (.external "Vat"))).externalTypes,
      (Host.empty.register "Vat" (keeper "Vat" "ident")).IsCurrent type := by
    intro type _ c hc
    cases hc
  obtain ⟨hdriver, hmodel⟩ := createText_realizes ⟨fun _ => .missing⟩
    (Descriptor.wellFormed_iff.2 ⟨_, _, hangle⟩) hregisters hcurrent (some "[a=b, c, a=b]")
  rw [hrender] at hdriver
  obtain ⟨hevaluate, hoperand⟩ := hmodel vatPairs rfl rfl (by decide) hbracket
  have htext : "self.factory.create(" ++ Text.quoted "[a=b, c, a=b]" ++ ", " ++
      Text.quoted "HashSet<SimpleEntry<Vat, Vat>>" ++ ")" =
        "self.factory.create('[a=b, c, a=b]', 'HashSet<SimpleEntry<Vat, Vat>>')" := by
    decide +kernel
  refine ⟨hdriver, by decide +kernel, hevaluate, ?_⟩
  rw [hoperand, hrender, Option.getD_some, htext]

/-- A type that has been resolved keeps its constructor when another one is registered for it. -/
theorem createText_registered_again :
    let lib : Library := ⟨fun _ => .missing⟩
    let make : String → String → Value := fun _ => kept "Doc" "name"
    let used := ((createText (Host.externals lib) .angle (some "v") "X").run
      (Host.empty.register "X" (keeper "Vat" "ident"))).2
    let h := used.register "X" (keeper "Doc" "name")
    h.Registers make "X" ∧
      ((createText (Host.externals lib) .angle (some "v")
        ((Descriptor.external "X").render .angle)).run h).1 ≠
          (Model.create (.external "X") "v").map (realize make (.external "X")) := by
  intro lib make used h
  refine ⟨⟨keeper "Doc" "name", rfl, keeper_makes "Doc" "name"⟩, fun heq => ?_⟩
  have hsource := congrArg (fun r => r.toOption.map Value.source) heq
  revert hsource
  decide +kernel

end Grounding.Synthesis

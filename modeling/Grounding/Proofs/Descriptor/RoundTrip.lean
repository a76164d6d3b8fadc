import Grounding.Proofs.Descriptor.Exactness

/-!
# Descriptors survive being written

The descriptors that can be read are the well-formed ones, and whichever of the two grammars such a
descriptor is written in, it is read back from there. So a descriptor that was read in the model's
grammar reaches a driver unchanged.
-/

namespace Grounding.Descriptor

open Text

/-! ### Well-formed descriptors -/

/-- A name that is taken for that of an external type. -/
structure IsTypeName (name : String) : Prop where
  ne_nil : name.toList ≠ []
  stripped : strip name.toList = name.toList
  plain : ∀ c ∈ name.toList, isBracket c = false
  not_primitive : ∀ p : Primitive, name ≠ p.name

/-- The descriptors that may be parameters: a comma would end the name of an external type. -/
def IsParameter : Descriptor → Prop
  | primitive _ => True
  | external name => IsTypeName name ∧ ',' ∉ name.toList
  | list e | set e => e.IsParameter
  | map k v | pair k v => k.IsParameter ∧ v.IsParameter

/-- The descriptors that some text describes. -/
def WellFormed : Descriptor → Prop
  | external name => IsTypeName name
  | d => d.IsParameter

theorem IsParameter.wellFormed {d : Descriptor} (h : d.IsParameter) : d.WellFormed := by
  cases d with
  | external name => exact h.1
  | _ => exact h

theorem isParameter_of_undivided {g : Grammar} {t : List Char} {d : Descriptor}
    (h : Derives g t d) (hd : d.WellFormed) (ht : Undivided [','] 0 t) : d.IsParameter := by
  cases h with
  | external hs hnil hplain hother =>
    refine ⟨hd, fun hcomma => ?_⟩
    rw [← hs] at hcomma
    obtain ⟨before, after, hmid⟩ := List.append_of_mem hcomma
    obtain ⟨l, r, hl, -, hraw⟩ := exists_blanks t
    refine ht (l ++ before) (after ++ r) (by rw [hraw, hmid]; simp) (depthAfter_plain ?_ 0)
    intro c hc
    rcases List.mem_append.1 hc with hc | hc
    · exact not_bracket_of_blank (hl c hc)
    · exact hplain c (by rw [hmid]; simp [hc])
  | _ => exact hd

theorem Derives.wellFormed {g : Grammar} {t : List Char} {d : Descriptor} (h : Derives g t d) :
    d.WellFormed := by
  induction h with
  | primitive _ => trivial
  | external hs hnil hplain hother =>
    rw [hs] at hnil hplain
    exact ⟨hnil, by rw [← hs, strip_strip], hplain, hother⟩
  | list ht hp ih | set ht hp ih =>
    have hparam := isParameter_of_undivided hp ih (ht.2 _ (by simp))
    exact hparam
  | map ht hk hv ihk ihv | pair ht hk hv ihk ihv =>
    exact ⟨isParameter_of_undivided hk ihk (ht.2 _ (by simp)),
      isParameter_of_undivided hv ihv (ht.2 _ (by simp))⟩

/-! ### The text of an application -/

theorem toList_apply (g : Grammar) (c : Container) (params : List String) :
    (g.apply c params).toList = (g.baseName c).toList ++
      (g.opening :: [',', ' '].intercalate (params.map String.toList) ++ [g.closing]) := by
  rw [Grammar.apply]
  simp only [String.toList_append, String.toList_singleton, String.toList_intercalate,
    List.append_assoc, List.cons_append, List.nil_append]
  rfl

theorem isApplication_apply (g : Grammar) (c : Container) {params : List String}
    {parts : List (List Char)}
    (hjoin : [',', ' '].intercalate (params.map String.toList) = [','].intercalate parts)
    (hparts : ∀ p ∈ parts, Undivided [','] 0 p) :
    IsApplication g c parts (g.apply c params).toList := by
  have hstrip : strip (g.apply c params).toList = (g.apply c params).toList := by
    obtain ⟨x, s, hs⟩ := List.exists_cons_of_ne_nil (g.baseName_ne_nil c)
    have hfirst : isBlank x = false := g.baseName_not_blank c x (by rw [hs]; simp)
    have hlast : isBlank g.closing = false := by cases g <;> decide
    rw [toList_apply, hs, List.cons_append, ← List.append_assoc s]
    exact strip_eq_self (t := x :: (s ++ _)) rfl hfirst hlast
  refine ⟨⟨[], by simp, ?_⟩, hparts⟩
  rw [hstrip, toList_apply, hjoin, List.append_nil, List.append_assoc]

theorem undivided_apply (g : Grammar) (c : Container) {params : List String}
    (hparams : ∀ p ∈ params, balanced p.toList = true) :
    Undivided [','] 0 (g.apply c params).toList := by
  have hinner : balanced ([',', ' '].intercalate (params.map String.toList)) = true := by
    refine balanced_intercalate (by decide) fun p hp => ?_
    obtain ⟨s, hs, rfl⟩ := List.mem_map.1 hp
    exact hparams s hs
  have hbase : Undivided [','] 0 (g.baseName c).toList :=
    undivided_of_not_mem (g.baseName_no_comma c) 0
  rw [toList_apply]
  refine hbase.append_singleton ?_
  rw [depthAfter_plain (g.baseName_plain c), g.opening_eq, g.closing_eq]
  exact undivided_enclosed isSeparator_comma.ne_nil isSeparator_comma.plain g.delimiter hinner

theorem undivided_blank {p : List Char} (hp : Undivided [','] 0 p) :
    Undivided [','] 0 (' ' :: p) := by
  refine undivided_cons hp fun _ hprefix => ?_
  cases (List.cons_prefix_cons.1 hprefix).1

/-! ### Reading what was written -/

theorem IsTypeName.derives {name : String} (h : IsTypeName name) (g : Grammar) :
    Derives g name.toList (external name) := by
  refine .external h.stripped ?_ ?_ h.not_primitive
  · rw [h.stripped]
    exact h.ne_nil
  · rw [h.stripped]
    exact h.plain

theorem derives_render_parameter (g : Grammar) {d : Descriptor} (h : d.IsParameter) :
    Derives g (d.render g).toList d ∧ Undivided [','] 0 (d.render g).toList := by
  have hone : ∀ {c : Container} {s : String}, Undivided [','] 0 s.toList →
      IsApplication g c [s.toList] (g.apply c [s]).toList := fun hs =>
    isApplication_apply g _ (by simp) (by simpa using hs)
  have htwo : ∀ {c : Container} {s t : String}, Undivided [','] 0 s.toList →
      Undivided [','] 0 t.toList →
      IsApplication g c [s.toList, ' ' :: t.toList] (g.apply c [s, t]).toList := fun hs ht =>
    isApplication_apply g _ (by simp) (by simpa using ⟨hs, undivided_blank ht⟩)
  have hblank : ∀ {s : List Char} {e : Descriptor}, Derives g s e → Derives g (' ' :: s) e :=
    fun hs => hs.congr (strip_blank_append (w := [' ']) (by simp; decide) _).symm
  induction d with
  | primitive p =>
    have hstrip : strip p.name.toList = p.name.toList := by cases p <;> decide
    have hcomma : ',' ∉ p.name.toList := by cases p <;> decide
    exact ⟨.primitive hstrip, undivided_of_not_mem hcomma 0⟩
  | external name => exact ⟨h.1.derives g, undivided_of_not_mem h.2 0⟩
  | list e ih =>
    obtain ⟨he, hsep⟩ := ih h
    exact ⟨.list (hone hsep) he, undivided_apply g .list (by simpa using he.balanced)⟩
  | set e ih =>
    obtain ⟨he, hsep⟩ := ih h
    exact ⟨.set (hone hsep) he, undivided_apply g .set (by simpa using he.balanced)⟩
  | map k v ihk ihv =>
    obtain ⟨hk, hksep⟩ := ihk h.1
    obtain ⟨hv, hvsep⟩ := ihv h.2
    exact ⟨.map (htwo hksep hvsep) hk (hblank hv),
      undivided_apply g .map (by simpa using ⟨hk.balanced, hv.balanced⟩)⟩
  | pair a b iha ihb =>
    obtain ⟨ha, hasep⟩ := iha h.1
    obtain ⟨hb, hbsep⟩ := ihb h.2
    exact ⟨.pair (htwo hasep hbsep) ha (hblank hb),
      undivided_apply g .pair (by simpa using ⟨ha.balanced, hb.balanced⟩)⟩

theorem derives_render (g : Grammar) {d : Descriptor} (h : d.WellFormed) :
    Derives g (d.render g).toList d := by
  cases d with
  | external name => exact h.derives g
  | _ => exact (derives_render_parameter g h).1

theorem parse_render_of_wellFormed (g : Grammar) {d : Descriptor} (h : d.WellFormed) :
    parse g (d.render g) = .ok d :=
  parseChars_of_derives (derives_render g h)

theorem wellFormed_iff {d : Descriptor} : d.WellFormed ↔ ∃ g text, parse g text = .ok d := by
  constructor
  · intro h
    exact ⟨.bracket, d.render .bracket, parse_render_of_wellFormed .bracket h⟩
  · rintro ⟨g, text, h⟩
    exact (derives_of_parseChars h).wellFormed

/--
A descriptor that was read in one grammar may be written in any, and is read back from there. So two
descriptors that were read and are written alike in some grammar are the same.
-/
theorem parse_render (g : Grammar) (text : String) (d : Descriptor) (h : parse g text = .ok d) :
    (∀ k, parse k (d.render k) = .ok d) ∧
      ∀ g' text' d', parse g' text' = .ok d' → ∀ k, d.render k = d'.render k → d = d' := by
  have hback : ∀ k, parse k (d.render k) = .ok d := fun k =>
    parse_render_of_wellFormed k (derives_of_parseChars h).wellFormed
  refine ⟨hback, fun g' text' d' h' k hk => ?_⟩
  have hd' := parse_render_of_wellFormed k (derives_of_parseChars h').wellFormed
  rw [← hk, hback k, Except.ok.injEq] at hd'
  exact hd'

/-- A type with blanks and an external name of two words crosses into the other grammar. -/
theorem parse_render_map_of_lists :
    parse .bracket " Map [Pair[String,Vat], List[Set [New Vat]] ]" =
        .ok (map (pair (.primitive .string) (.external "Vat"))
          (list (set (.external "New Vat")))) ∧
      parse .angle "HashMap<SimpleEntry<String, Vat>, ArrayList<HashSet<New Vat>>>" =
        .ok (map (pair (.primitive .string) (.external "Vat"))
          (list (set (.external "New Vat")))) := by
  have h : parse .bracket " Map [Pair[String,Vat], List[Set [New Vat]] ]" =
      .ok (map (pair (.primitive .string) (.external "Vat"))
        (list (set (.external "New Vat")))) := by
    decide +kernel
  exact ⟨h, (parse_render .bracket _ _ h).1 .angle⟩

end Grounding.Descriptor

import Grounding.Descriptor.Parser
import Grounding.Proofs.Outcome
import Grounding.Proofs.Text.Splitting
import Grounding.Proofs.Text.Stripping

/-!
# The parser reads its grammar

The parser looks for the first opening delimiter and checks the rest afterwards, so it does not
follow the grammar. It accepts the same texts nevertheless, and gives each the descriptor that the
grammar derives.
-/

namespace Grounding

open Text

/-! ### Delimiters and base names -/

namespace Grammar

/-- The kind of bracket around parameters. -/
def delimiter : Grammar → Bracket
  | bracket => .square
  | angle => .angle

theorem opening_eq (g : Grammar) : g.opening = g.delimiter.opening := by cases g <;> rfl

theorem closing_eq (g : Grammar) : g.closing = g.delimiter.closing := by cases g <;> rfl

theorem container?_baseName (g : Grammar) (c : Container) :
    g.container? (g.baseName c) = some c := by
  cases g <;> cases c <;> decide

theorem eq_baseName_of_container? {g : Grammar} {name : String} {c : Container}
    (h : g.container? name = some c) : name = g.baseName c := by
  rw [container?] at h
  have h := List.find?_some h
  exact (beq_iff_eq.1 h).symm

theorem ne_opening {c : Char} (hc : isBracket c = false) (g : Grammar) : c ≠ g.opening := by
  rintro rfl
  rw [g.opening_eq, isBracket_opening] at hc
  cases hc

theorem ne_closing {c : Char} (hc : isBracket c = false) (g : Grammar) : c ≠ g.closing := by
  rintro rfl
  rw [g.closing_eq, isBracket_closing] at hc
  cases hc

theorem baseName_plain (g : Grammar) (c : Container) :
    ∀ x ∈ (g.baseName c).toList, isBracket x = false := by
  have h : (g.baseName c).toList.all (!isBracket ·) = true := by cases g <;> cases c <;> decide
  simpa using h

theorem baseName_no_comma (g : Grammar) (c : Container) : ',' ∉ (g.baseName c).toList := by
  cases g <;> cases c <;> decide

theorem baseName_not_blank (g : Grammar) (c : Container) :
    ∀ x ∈ (g.baseName c).toList, isBlank x = false := by
  have h : (g.baseName c).toList.all (!isBlank ·) = true := by cases g <;> cases c <;> decide
  simpa using h

theorem baseName_ne_nil (g : Grammar) (c : Container) : (g.baseName c).toList ≠ [] := by
  cases g <;> cases c <;> decide

end Grammar

theorem Text.not_bracket_of_blank {c : Char} (h : isBlank c = true) : isBracket c = false := by
  by_contra hc
  obtain ⟨b, rfl | rfl⟩ := exists_bracket_of_isBracket (Bool.not_eq_false _ ▸ hc)
  · cases b <;> revert h <;> decide
  · cases b <;> revert h <;> decide

theorem Primitive.ofName?_name (p : Primitive) : Primitive.ofName? p.name = some p := by
  cases p <;> decide

theorem Primitive.eq_name_of_ofName? {name : String} {p : Primitive}
    (h : Primitive.ofName? name = some p) : name = p.name := by
  rw [ofName?] at h
  have h := List.find?_some h
  exact (beq_iff_eq.1 h).symm

theorem Primitive.name_plain (p : Primitive) : ∀ x ∈ p.name.toList, isBracket x = false := by
  have h : p.name.toList.all (!isBracket ·) = true := by cases p <;> decide
  simpa using h

theorem Primitive.name_ne_nil (p : Primitive) : p.name.toList ≠ [] := by
  cases p <;> decide

namespace Descriptor

/-! ### One layer -/

def Layer.container? : Layer → Option Container
  | name _ => none
  | list _ => some .list
  | set _ => some .set
  | map _ _ => some .map
  | pair _ _ => some .pair

theorem ofName_name (p : Primitive) : ofName p.name = .primitive p := by
  rw [ofName, Primitive.ofName?_name]

theorem ofName_external {name : String} (h : ∀ p : Primitive, name ≠ p.name) :
    ofName name = .external name := by
  rw [ofName]
  split
  · next p hp => exact absurd (Primitive.eq_name_of_ofName? hp) (h p)
  · rfl

theorem readStripped_name (g : Grammar) {s : List Char} (hs : ∀ c ∈ s, isBracket c = false) :
    readStripped g s = .ok (.name (ofName (String.ofList s))) := by
  have hopening : s.dropWhile (· != g.opening) = [] := by
    rw [List.dropWhile_eq_nil_iff]
    exact fun c hc => bne_iff_ne.2 (Grammar.ne_opening (hs c hc) g)
  have hclosing : s.contains g.closing = false := by
    rw [← Bool.not_eq_true, List.contains_iff_mem]
    exact fun hmem => Grammar.ne_closing (hs _ hmem) g rfl
  have hany : s.any isBracket = false := by
    rw [List.any_eq_false]
    intro c hc
    rw [hs c hc]
    exact Bool.false_ne_true
  rw [readStripped, hopening]
  simp only [hclosing, hany]
  rfl

theorem readStripped_application (g : Grammar) {head inner : List Char}
    (hhead : ∀ c ∈ head, isBracket c = false) (hinner : balanced inner = true) :
    readStripped g (head ++ g.opening :: inner ++ [g.closing]) =
      readGeneric g (String.ofList (head ++ g.opening :: inner ++ [g.closing])) head
        (splitTopLevel [','] inner) := by
  have hall : ∀ c ∈ head, (c != g.opening) = true := fun c hc =>
    bne_iff_ne.2 (Grammar.ne_opening (hhead c hc) g)
  have hdrop : (head ++ g.opening :: (inner ++ [g.closing])).dropWhile (· != g.opening) =
      g.opening :: (inner ++ [g.closing]) := by
    rw [List.dropWhile_append_of_pos hall]
    exact List.dropWhile_cons_of_neg (by simp)
  have htake : (head ++ g.opening :: (inner ++ [g.closing])).takeWhile (· != g.opening) = head := by
    rw [List.takeWhile_append_of_pos hall]
    exact (congrArg (head ++ ·) (List.takeWhile_cons_of_neg (by simp))).trans (List.append_nil _)
  rw [readStripped, List.append_assoc, List.cons_append, hdrop, htake]
  simp only [List.getLast?_append, List.getLast?_singleton, Option.some_or, beq_self_eq_true,
    List.dropLast_concat, hinner, Bool.and_self, if_true]

theorem readGeneric_ok {g : Grammar} {shown : String} {base : List Char} {parts : List (List Char)}
    {l : Layer} (h : readGeneric g shown base parts = .ok l) :
    ∃ c, g.container? (String.ofList (strip base)) = some c ∧ l.container? = some c ∧
      l.parts = parts.map strip := by
  simp only [readGeneric] at h
  generalize parts.map strip = stripped at h ⊢
  split at h
  · cases h
  all_goals cases h
  all_goals exact ⟨_, by assumption, rfl, rfl⟩

theorem readLayer_strip {g : Grammar} {raw : List Char} (h : strip raw ≠ []) :
    readLayer g (strip raw) = readLayer g raw := by
  simp only [readLayer, strip_strip, List.isEmpty_iff, h, if_false]

theorem eq_application {g : Grammar} {c : Container} {raw : List Char} {first : Char}
    {rest : List Char} (hdrop : (strip raw).dropWhile (· != g.opening) = first :: rest)
    (hlast : rest.getLast? = some g.closing)
    (hbase : strip ((strip raw).takeWhile (· != g.opening)) = (g.baseName c).toList) :
    ∃ w, (∀ x ∈ w, isBlank x = true) ∧ strip raw = (g.baseName c).toList ++ w ++
      g.opening :: [','].intercalate (splitTopLevel [','] rest.dropLast) ++ [g.closing] := by
  have htext : strip raw = (strip raw).takeWhile (· != g.opening) ++ first :: rest := by
    rw [← hdrop, List.takeWhile_append_dropWhile]
  have hfirst : first = g.opening := by
    have := List.head?_dropWhile_not (· != g.opening) (strip raw)
    rw [hdrop] at this
    simpa using this
  have hrest : rest = rest.dropLast ++ [g.closing] := by
    obtain ⟨init, rfl⟩ := List.getLast?_eq_some_iff.1 hlast
    rw [List.dropLast_concat]
  obtain ⟨l, r, hl, hr, hhead⟩ := exists_blanks ((strip raw).takeWhile (· != g.opening))
  rw [hbase] at hhead
  have hl0 : l = [] := by
    by_contra hne
    obtain ⟨x, l, rfl⟩ := List.exists_cons_of_ne_nil hne
    rw [hhead] at htext
    have := head_strip_not_blank htext
    rw [hl x (by simp)] at this
    cases this
  refine ⟨r, hr, ?_⟩
  rw [intercalate_splitTopLevel isSeparator_comma.ne_nil isSeparator_comma.plain]
  conv_lhs => rw [htext, hhead, hl0, hfirst, hrest]
  simp only [List.nil_append, List.append_assoc, List.cons_append]

theorem readLayer_ok {g : Grammar} {raw : List Char} {l : Layer} (h : readLayer g raw = .ok l) :
    (strip raw ≠ [] ∧ (∀ c ∈ strip raw, isBracket c = false) ∧
      l = .name (ofName (String.ofList (strip raw)))) ∨
    ∃ c parts, IsApplication g c parts raw ∧ l.container? = some c ∧
      l.parts = parts.map strip := by
  rw [readLayer] at h
  split at h
  · cases h
  · next hblank =>
    rw [List.isEmpty_iff] at hblank
    rw [readStripped] at h
    split at h
    · split at h
      · cases h
      · split at h
        · cases h
        · next hany =>
          refine .inl ⟨hblank, fun c hc => ?_, (Except.ok.inj h).symm⟩
          rw [← Bool.not_eq_true]
          exact fun hb => hany (List.any_eq_true.2 ⟨c, hc, hb⟩)
    · next first rest hdrop =>
      split at h
      · next hcond =>
        rw [Bool.and_eq_true, beq_iff_eq] at hcond
        obtain ⟨c, hc, hcontainer, hparts⟩ := readGeneric_ok h
        have hbase : strip ((strip raw).takeWhile (· != g.opening)) = (g.baseName c).toList := by
          rw [← Grammar.eq_baseName_of_container? hc, String.toList_ofList]
        exact .inr ⟨c, _, ⟨eq_application hdrop hcond.1 hbase, fun p hp =>
          undivided_of_mem_splitTopLevel isSeparator_comma.ne_nil isSeparator_comma.plain hp⟩,
          hcontainer, hparts⟩
      · cases h

/-! ### Texts that are derived -/

theorem IsApplication.balanced {g : Grammar} {c : Container} {parts : List (List Char)}
    {t : List Char} (h : IsApplication g c parts t) (hparts : ∀ p ∈ parts, balanced p = true) :
    balanced t = true := by
  obtain ⟨⟨w, hw, ht⟩, -⟩ := h
  obtain ⟨l, r, hl, hr, hraw⟩ := exists_blanks t
  have hblank : ∀ s : List Char, (∀ x ∈ s, isBlank x = true) → Text.balanced s = true := fun s hs =>
    balanced_plain fun x hx => not_bracket_of_blank (hs x hx)
  have hinner : Text.balanced ([','].intercalate parts) = true :=
    balanced_intercalate (by decide) hparts
  rw [hraw, ht, g.opening_eq, g.closing_eq, List.append_assoc (_ ++ w)]
  exact balanced_append (balanced_append (hblank l hl)
    (balanced_append (balanced_append (balanced_plain (g.baseName_plain c)) (hblank w hw))
      (balanced_enclosed g.delimiter hinner))) (hblank r hr)

theorem Derives.balanced {g : Grammar} {t : List Char} {d : Descriptor} (h : Derives g t d) :
    balanced t = true := by
  have hname : ∀ s : List Char, (∀ c ∈ strip s, isBracket c = false) → Text.balanced s = true := by
    intro s hs
    obtain ⟨l, r, hl, hr, hraw⟩ := exists_blanks s
    refine balanced_plain fun x hx => ?_
    rw [hraw, List.mem_append, List.mem_append] at hx
    rcases hx with (hx | hx) | hx
    · exact not_bracket_of_blank (hl x hx)
    · exact hs x hx
    · exact not_bracket_of_blank (hr x hx)
  induction h with
  | primitive hs => exact hname _ (hs ▸ Primitive.name_plain _)
  | external _ _ hplain _ => exact hname _ hplain
  | list ht _ ih | set ht _ ih => exact ht.balanced (by simpa using ih)
  | map ht _ _ ihk ihv | pair ht _ _ ihk ihv => exact ht.balanced (by simpa using ⟨ihk, ihv⟩)

theorem IsApplication.readLayer {g : Grammar} {c : Container} {parts : List (List Char)}
    {t : List Char} (h : IsApplication g c parts t) (hne : parts ≠ [])
    (hparts : ∀ p ∈ parts, Text.balanced p = true) :
    ∃ shown base, readLayer g t = readGeneric g shown base parts ∧
      g.container? (String.ofList (strip base)) = some c := by
  obtain ⟨⟨w, hw, ht⟩, hundivided⟩ := h
  have hhead : ∀ x ∈ (g.baseName c).toList ++ w, isBracket x = false := by
    intro x hx
    rcases List.mem_append.1 hx with hx | hx
    · exact g.baseName_plain c x hx
    · exact not_bracket_of_blank (hw x hx)
  have hsplit : splitTopLevel [','] ([','].intercalate parts) = parts :=
    splitTopLevel_join isSeparator_comma hne hundivided
      fun p hp => depthAfter_balanced (hparts p hp)
  refine ⟨String.ofList (strip t), (g.baseName c).toList ++ w, ?_, ?_⟩
  · have hnil : strip t ≠ [] := by rw [ht]; simp
    rw [Descriptor.readLayer, if_neg (by rwa [List.isEmpty_iff]), ht,
      readStripped_application g hhead (balanced_intercalate (by decide) hparts), hsplit]
  · have hself : strip (g.baseName c).toList = (g.baseName c).toList :=
      strip_eq_self_of_no_blank (g.baseName_not_blank c)
    rw [strip_append_blank _ hw, hself, String.ofList_toList, g.container?_baseName]

/-! ### The whole text -/

theorem parseChars_eq (g : Grammar) (raw : List Char) :
    parseChars g raw =
      match readLayer g raw with
      | .error e => .error e
      | .ok (.name d) => .ok d
      | .ok (.list e) => do return .list (← parseChars g e)
      | .ok (.set e) => do return .set (← parseChars g e)
      | .ok (.map k v) => do return .map (← parseChars g k) (← parseChars g v)
      | .ok (.pair k v) => do return .pair (← parseChars g k) (← parseChars g v) := by
  rw [parseChars]
  split <;> next h => rw [h]

theorem parseChars_strip {g : Grammar} {raw : List Char} {d : Descriptor}
    (h : parseChars g raw = .ok d) : parseChars g (strip raw) = .ok d := by
  have hnil : strip raw ≠ [] := by
    intro hnil
    rw [parseChars_eq, readLayer, hnil] at h
    cases h
  rw [parseChars_eq, readLayer_strip hnil, ← parseChars_eq, h]

theorem parseChars_of_name {g : Grammar} {t : List Char} (hnil : strip t ≠ [])
    (hplain : ∀ c ∈ strip t, isBracket c = false) :
    parseChars g t = .ok (ofName (String.ofList (strip t))) := by
  rw [parseChars_eq, readLayer, if_neg (by rwa [List.isEmpty_iff]), readStripped_name g hplain]

theorem parseChars_of_derives {g : Grammar} {t : List Char} {d : Descriptor} (h : Derives g t d) :
    parseChars g t = .ok d := by
  induction h with
  | primitive hs =>
    rw [parseChars_of_name (hs ▸ Primitive.name_ne_nil _) (hs ▸ Primitive.name_plain _), hs,
      String.ofList_toList, ofName_name]
  | external hs hnil hplain hother =>
    rw [parseChars_of_name hnil hplain, hs, String.ofList_toList, ofName_external hother]
  | list ht hp ih | set ht hp ih =>
    obtain ⟨shown, base, hread, hbase⟩ := ht.readLayer (by simp) (by simpa using hp.balanced)
    rw [parseChars_eq, hread, readGeneric, hbase]
    simp only [List.map_cons, List.map_nil, parseChars_strip ih]
    rfl
  | map ht hk hv ihk ihv | pair ht hk hv ihk ihv =>
    obtain ⟨shown, base, hread, hbase⟩ :=
      ht.readLayer (by simp) (by simpa using ⟨hk.balanced, hv.balanced⟩)
    rw [parseChars_eq, hread, readGeneric, hbase]
    simp only [List.map_cons, List.map_nil, parseChars_strip ihk, parseChars_strip ihv]
    rfl

theorem Derives.congr {g : Grammar} {s t : List Char} {d : Descriptor} (h : Derives g s d)
    (hst : strip s = strip t) : Derives g t d := by
  have happ : ∀ {c parts}, IsApplication g c parts s → IsApplication g c parts t := by
    rintro c parts ⟨htext, hundivided⟩
    exact ⟨hst ▸ htext, hundivided⟩
  cases h with
  | primitive hs => exact .primitive (hst ▸ hs)
  | external hs hnil hplain hother => exact .external (hst ▸ hs) (hst ▸ hnil) (hst ▸ hplain) hother
  | list ht hp => exact .list (happ ht) hp
  | set ht hp => exact .set (happ ht) hp
  | map ht hk hv => exact .map (happ ht) hk hv
  | pair ht ha hb => exact .pair (happ ht) ha hb

theorem derives_of_name {g : Grammar} {t : List Char} (hnil : strip t ≠ [])
    (hplain : ∀ c ∈ strip t, isBracket c = false) :
    Derives g t (ofName (String.ofList (strip t))) := by
  by_cases h : ∃ p : Primitive, String.ofList (strip t) = p.name
  · obtain ⟨p, hp⟩ := h
    rw [hp, ofName_name]
    exact .primitive (by rw [← hp, String.toList_ofList])
  · have hother : ∀ p : Primitive, String.ofList (strip t) ≠ p.name := fun p hp => h ⟨p, hp⟩
    rw [ofName_external hother]
    exact .external String.toList_ofList.symm hnil hplain hother

theorem readLayer_one {g : Grammar} {raw q : List Char} {l : Layer} {c : Container}
    (h : readLayer g raw = .ok l) (hc : l.container? = some c) (hl : l.parts = [q]) :
    ∃ p, strip p = q ∧ IsApplication g c [p] raw := by
  rcases readLayer_ok h with ⟨-, -, rfl⟩ | ⟨c', parts, happ, hc', hparts⟩
  · cases hc
  · rw [hc, Option.some.injEq] at hc'
    rw [hl] at hparts
    obtain ⟨p, rfl, hp⟩ := List.map_eq_singleton_iff.1 hparts.symm
    exact ⟨p, hp, hc' ▸ happ⟩

theorem readLayer_two {g : Grammar} {raw q₁ q₂ : List Char} {l : Layer} {c : Container}
    (h : readLayer g raw = .ok l) (hc : l.container? = some c) (hl : l.parts = [q₁, q₂]) :
    ∃ p₁ p₂, strip p₁ = q₁ ∧ strip p₂ = q₂ ∧ IsApplication g c [p₁, p₂] raw := by
  rcases readLayer_ok h with ⟨-, -, rfl⟩ | ⟨c', parts, happ, hc', hparts⟩
  · cases hc
  · rw [hc, Option.some.injEq] at hc'
    rw [hl] at hparts
    obtain ⟨p₁, rest, rfl, hp₁, hrest⟩ := List.map_eq_cons_iff.1 hparts.symm
    obtain ⟨p₂, rfl, hp₂⟩ := List.map_eq_singleton_iff.1 hrest
    exact ⟨p₁, p₂, hp₁, hp₂, hc' ▸ happ⟩

/-- What is read is derived by the grammar. The induction is on the length of the text. -/
theorem derives_of_parseChars {g : Grammar} {t : List Char} {d : Descriptor}
    (h : parseChars g t = .ok d) : Derives g t d := by
  induction hn : t.length using Nat.strong_induction_on generalizing t d with
  | _ n ih =>
    subst hn
    rw [parseChars_eq] at h
    cases hl : readLayer g t with
    | error e => rw [hl] at h; cases h
    | ok l =>
      -- a part is derived from its stripped text, which is the shorter one
      have hpart : ∀ {p d'}, strip p ∈ l.parts → parseChars g (strip p) = .ok d' → Derives g p d' :=
        fun hp hd => (ih _ (length_lt_of_readLayer hl hp) hd rfl).congr (strip_strip _)
      rw [hl] at h
      cases l with
      | name d' =>
        rcases readLayer_ok hl with ⟨hnil, hplain, hname⟩ | ⟨c, parts, -, hc, -⟩
        · cases h
          cases hname
          exact derives_of_name hnil hplain
        · cases hc
      | list e =>
        obtain ⟨p, rfl, happ⟩ := readLayer_one hl rfl rfl
        obtain ⟨d', hd, rfl⟩ := Outcome.map_eq_ok_iff.1 h
        exact .list happ (hpart (by simp [Layer.parts]) hd)
      | set e =>
        obtain ⟨p, rfl, happ⟩ := readLayer_one hl rfl rfl
        obtain ⟨d', hd, rfl⟩ := Outcome.map_eq_ok_iff.1 h
        exact .set happ (hpart (by simp [Layer.parts]) hd)
      | map k v =>
        obtain ⟨p, q, rfl, rfl, happ⟩ := readLayer_two hl rfl rfl
        obtain ⟨dk, hk, h⟩ := Outcome.bind_eq_ok_iff.1 h
        obtain ⟨dv, hv, rfl⟩ := Outcome.map_eq_ok_iff.1 h
        exact .map happ (hpart (by simp [Layer.parts]) hk) (hpart (by simp [Layer.parts]) hv)
      | pair a b =>
        obtain ⟨p, q, rfl, rfl, happ⟩ := readLayer_two hl rfl rfl
        obtain ⟨da, ha, h⟩ := Outcome.bind_eq_ok_iff.1 h
        obtain ⟨db, hb, rfl⟩ := Outcome.map_eq_ok_iff.1 h
        exact .pair happ (hpart (by simp [Layer.parts]) ha) (hpart (by simp [Layer.parts]) hb)

theorem parseChars_eq_ok_iff {g : Grammar} {t : List Char} {d : Descriptor} :
    parseChars g t = .ok d ↔ Derives g t d :=
  ⟨derives_of_parseChars, parseChars_of_derives⟩

/--
The parser returns exactly what the grammar derives. No text has two derivations with different
results, and a text with none is refused.
-/
theorem parse_exact (g : Grammar) (text : String) :
    (∀ d, parse g text = .ok d ↔ Derives g text.toList d) ∧
      (∀ d d', Derives g text.toList d → Derives g text.toList d' → d = d') ∧
      ((∀ d, ¬ Derives g text.toList d) → ∃ e : DescriptorError, parse g text = .error e) := by
  refine ⟨fun d => parseChars_eq_ok_iff, fun d d' h h' => ?_, fun hnone => ?_⟩
  · have hd := parseChars_of_derives h
    rw [parseChars_of_derives h', Except.ok.injEq] at hd
    exact hd.symm
  · cases hp : parse g text with
    | error e => exact ⟨e, rfl⟩
    | ok d => exact absurd (derives_of_parseChars hp) (hnone d)

end Descriptor

end Grounding

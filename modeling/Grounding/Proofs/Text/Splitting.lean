import Grounding.Proofs.Text.Nesting
import Grounding.Text.TopLevel

/-!
# Cutting at the top level

Cutting a text and joining the parts with the separator are inverse. The parts of any text join to
it, and none of them holds the separator at depth zero. Conversely, parts of that kind which start
and end at depth zero come back from the text they are joined to, provided the separator cannot
overlap itself: otherwise an occurrence could begin in a part and end in the separator after it.

A text is cut part by part: what holds of a text that is left whole, and is kept by one more part in
front, holds of every text and its parts (`splitTopLevel_induction`).
-/

namespace Grounding.Text

/-! ### Parts -/

/-- Puts a text in front of the first part. -/
def prepend (s : List Char) (parts : List (List Char)) : List (List Char) := s.foldr consFirst parts

theorem prepend_cons (s q : List Char) (qs : List (List Char)) :
    prepend s (q :: qs) = (s ++ q) :: qs := by
  induction s with
  | nil => rfl
  | cons c s ih =>
    show consFirst c (prepend s (q :: qs)) = _
    rw [ih, consFirst, List.cons_append]

theorem splitFrom_drop (sep : List Char) (depth : Int) (skip : Nat) (s : List Char) :
    splitFrom sep depth skip s = splitFrom sep depth 0 (s.drop skip) := by
  induction s generalizing skip with
  | nil => cases skip <;> rfl
  | cons c s ih =>
    cases skip with
    | zero => rfl
    | succ skip => rw [splitFrom, ih, List.drop_succ_cons]

/-! ### Texts that are not divided -/

section

variable {sep : List Char}

theorem undivided_nil (hsep : sep ≠ []) (depth : Int) : Undivided sep depth [] := by
  intro before after h
  simp only [List.nil_eq, List.append_eq_nil_iff] at h
  exact absurd h.1.2 hsep

theorem undivided_cons {c : Char} {s : List Char} {depth : Int}
    (hs : Undivided sep (stepDepth depth c) s) (hc : depth = 0 → ¬ sep <+: c :: s) :
    Undivided sep depth (c :: s) := by
  intro before after h
  cases before with
  | nil =>
    intro hdepth
    exact hc hdepth ⟨after, h.symm⟩
  | cons d before =>
    rw [List.cons_append, List.cons_append, List.cons.injEq] at h
    rw [depthAfter_cons, ← h.1]
    exact hs before after h.2

theorem undivided_of_not_infix {s : List Char} (h : ¬ sep <:+: s) (depth : Int) :
    Undivided sep depth s := fun before after hs => absurd ⟨before, after, hs.symm⟩ h

theorem undivided_of_not_mem {c : Char} {s : List Char} (h : c ∉ s) (depth : Int) :
    Undivided [c] depth s := by
  refine undivided_of_not_infix ?_ depth
  rintro ⟨before, after, rfl⟩
  exact h (by simp)

theorem Undivided.append {s t : List Char} {depth : Int} (hs : Undivided sep depth s)
    (ht : Undivided sep (depthAfter depth s) t)
    (hjoin : ∀ u v, sep = u ++ v → u ≠ [] → v ≠ [] → u <:+ s → ¬ v <+: t) :
    Undivided sep depth (s ++ t) := by
  intro before after h
  rw [List.append_assoc] at h
  rcases List.append_eq_append_iff.1 h with ⟨as, rfl, hafter⟩ | ⟨bs, rfl, hafter⟩
  · rw [depthAfter_append]
    exact ht as after (by rw [hafter, List.append_assoc])
  · rcases List.append_eq_append_iff.1 hafter with ⟨cs, rfl, hcs⟩ | ⟨cs, hcs, rfl⟩
    · exact hs before cs (by rw [List.append_assoc])
    · by_cases hb : bs = []
      · subst hb
        rw [List.nil_append] at hcs
        rw [List.append_nil] at ht
        exact ht [] after (by rw [hcs]; rfl)
      · by_cases hc : cs = []
        · subst hc
          rw [List.append_nil] at hcs
          exact hs before [] (by rw [hcs, List.append_nil])
        · exact absurd (List.prefix_append _ _) (hjoin bs cs hcs hb hc (List.suffix_append _ _))

theorem Undivided.append_singleton {c : Char} {s t : List Char} {depth : Int}
    (hs : Undivided [c] depth s) (ht : Undivided [c] (depthAfter depth s) t) :
    Undivided [c] depth (s ++ t) := by
  refine hs.append ht fun u v huv hu hv => ?_
  have hlength := congrArg List.length huv
  have := List.length_pos_iff.2 hu
  have := List.length_pos_iff.2 hv
  rw [List.length_append, List.length_singleton] at hlength
  omega

theorem Undivided.append_cons {s t : List Char} {c : Char} {depth : Int} (hne : sep ≠ [])
    (hc : c ∉ sep) (hs : Undivided sep depth s)
    (ht : Undivided sep (stepDepth (depthAfter depth s) c) t) :
    Undivided sep depth (s ++ c :: t) := by
  have hnone : ∀ v, v ≠ [] → v <:+ sep → ¬ v <+: c :: t := by
    intro v hv hsuffix hprefix
    obtain ⟨a, v', rfl⟩ := List.exists_cons_of_ne_nil hv
    rw [(List.cons_prefix_cons.1 hprefix).1] at hsuffix
    exact hc (hsuffix.subset (by simp))
  refine hs.append (undivided_cons ht fun _ => hnone sep hne (List.suffix_refl sep)) ?_
  rintro u v rfl - hv -
  exact hnone v hv (List.suffix_append u v)

theorem undivided_enclosed (hne : sep ≠ []) (hplain : ∀ c ∈ sep, isBracket c = false) (b : Bracket)
    {s : List Char} (hs : balanced s = true) :
    Undivided sep 0 (b.opening :: s ++ [b.closing]) := by
  intro before after h
  obtain ⟨a, sep', rfl⟩ := List.exists_cons_of_ne_nil hne
  have ha := hplain a (by simp)
  cases before with
  | nil =>
    rw [List.nil_append, List.cons_append, List.cons_append, List.cons.injEq] at h
    rw [← h.1, isBracket_opening] at ha
    cases ha
  | cons d before =>
    rw [List.cons_append, List.cons_append, List.cons_append, List.cons.injEq] at h
    obtain ⟨rfl, h⟩ := h
    rw [List.append_assoc] at h
    rcases List.append_eq_append_iff.1 h with ⟨as, -, hafter⟩ | ⟨bs, rfl, -⟩
    · have hmem : a ∈ [b.closing] := by rw [hafter]; simp
      rw [List.mem_singleton.1 hmem, isBracket_closing] at ha
      cases ha
    · have hdepth : 1 ≤ depthAfter 1 before := le_depthAfter_of_balanced hs [b]
      rw [depthAfter_cons, stepDepth, if_pos (isOpening_opening b), Int.zero_add]
      omega

end

/-! ### Part by part -/

section

variable {sep : List Char}

theorem splitFrom_cons_cases (hne : sep ≠ []) (depth : Int) (c : Char) (s : List Char) :
    (splitFrom sep depth 0 (c :: s) = consFirst c (splitFrom sep (stepDepth depth c) 0 s) ∧
      (isBracket c = false → depth = 0 → ¬ sep <+: c :: s)) ∨
    ∃ rest, depth = 0 ∧ c :: s = sep ++ rest ∧
      splitFrom sep depth 0 (c :: s) = [] :: splitFrom sep 0 0 rest := by
  rw [splitFrom]
  by_cases ho : isOpening c = true
  · left
    rw [if_pos ho, stepDepth, if_pos ho]
    simp [isBracket, ho]
  · rw [if_neg ho]
    by_cases hcl : isClosing c = true
    · left
      rw [if_pos hcl, stepDepth, if_neg ho, if_pos hcl]
      simp [isBracket, hcl]
    · rw [if_neg hcl, stepDepth, if_neg ho, if_neg hcl]
      by_cases hcut : (depth == 0 && sep.isPrefixOf (c :: s)) = true
      · right
        rw [if_pos hcut, splitFrom_drop]
        simp only [Bool.and_eq_true, beq_iff_eq, List.isPrefixOf_iff_prefix] at hcut
        obtain ⟨hdepth, rest, hrest⟩ := hcut
        obtain ⟨a, sep', rfl⟩ := List.exists_cons_of_ne_nil hne
        simp only [List.cons_append, List.cons.injEq] at hrest
        refine ⟨rest, hdepth, ?_, ?_⟩
        · simp [hrest]
        · rw [← hrest.2, hdepth, List.length_cons, Nat.add_sub_cancel, List.drop_left]
      · left
        rw [if_neg hcut]
        refine ⟨rfl, ?_⟩
        intro _ hdepth hprefix
        apply hcut
        simp [hdepth, hprefix]

/-- A text is left whole, or it is cut at a separator at depth zero, and then what follows that is
cut like a text of its own. -/
theorem splitFrom_cases (hne : sep ≠ []) (hplain : ∀ c ∈ sep, isBracket c = false)
    (s : List Char) : ∀ depth : Int,
      (splitFrom sep depth 0 s = [s] ∧ Undivided sep depth s) ∨
      ∃ p rest, s = p ++ sep ++ rest ∧ Undivided sep depth p ∧ depthAfter depth p = 0 ∧
        splitFrom sep depth 0 s = p :: splitFrom sep 0 0 rest := by
  induction s with
  | nil =>
    intro depth
    exact .inl ⟨rfl, undivided_nil hne depth⟩
  | cons c s ih =>
    intro depth
    rcases splitFrom_cons_cases hne depth c s with ⟨hkept, hnone⟩ | ⟨rest, hdepth, hs, hcut⟩
    · -- the separator, which holds no bracket, does not begin here, whatever `c` is
      have hbegin : depth = 0 → ¬ sep <+: c :: s := by
        intro hdepth hprefix
        obtain ⟨a, sep', rfl⟩ := List.exists_cons_of_ne_nil hne
        have ha : a = c := (List.cons_prefix_cons.1 hprefix).1
        exact hnone (hplain c (by simp [ha])) hdepth hprefix
      rw [hkept]
      rcases ih (stepDepth depth c) with ⟨hwhole, hs⟩ | ⟨p, rest, hs, hp, hdepth, hcut⟩
      · left
        rw [hwhole]
        exact ⟨rfl, undivided_cons hs hbegin⟩
      · right
        refine ⟨c :: p, rest, by simp [hs], undivided_cons hp ?_, hdepth, by rw [hcut]; rfl⟩
        intro hzero hprefix
        apply hbegin hzero
        apply hprefix.trans
        rw [hs, List.prefix_cons_inj, List.append_assoc]
        exact List.prefix_append p _
    · right
      exact ⟨[], rest, by simpa using hs, undivided_nil hne depth, hdepth, hcut⟩

/-- What holds of a text that is left whole, and of one with a part more in front if it holds of the
rest, holds of every text and its parts. -/
theorem splitTopLevel_induction (hne : sep ≠ []) (hplain : ∀ c ∈ sep, isBracket c = false)
    {P : List Char → List (List Char) → Prop}
    (whole : ∀ s, Undivided sep 0 s → P s [s])
    (cut : ∀ p rest parts, Undivided sep 0 p → depthAfter 0 p = 0 → P rest parts →
      P (p ++ sep ++ rest) (p :: parts)) (s : List Char) : P s (splitTopLevel sep s) := by
  induction hlength : s.length using Nat.strongRecOn generalizing s with
  | ind n ih =>
    rcases splitFrom_cases hne hplain s 0 with ⟨hs, hnone⟩ | ⟨p, rest, hs, hp, hdepth, hparts⟩
    · rw [splitTopLevel, hs]
      exact whole s hnone
    · have hpos := List.length_pos_iff.2 hne
      have hshorter : rest.length < n := by
        rw [← hlength, hs]
        simp only [List.length_append]
        omega
      rw [splitTopLevel, hparts, hs]
      exact cut p rest _ hp hdepth (ih rest.length hshorter rest rfl)

theorem intercalate_splitTopLevel (hne : sep ≠ []) (hplain : ∀ c ∈ sep, isBracket c = false)
    (s : List Char) : sep.intercalate (splitTopLevel sep s) = s := by
  have hjoin : splitTopLevel sep s ≠ [] ∧ sep.intercalate (splitTopLevel sep s) = s := by
    induction s using splitTopLevel_induction hne hplain with
    | whole s _ => simp
    | cut p rest parts _ _ ih =>
      obtain ⟨hsome, hrest⟩ := ih
      obtain ⟨q, parts, rfl⟩ := List.exists_cons_of_ne_nil hsome
      rw [List.intercalate_cons_cons, hrest]
      exact ⟨List.cons_ne_nil _ _, rfl⟩
  exact hjoin.2

theorem undivided_of_mem_splitTopLevel (hne : sep ≠ []) (hplain : ∀ c ∈ sep, isBracket c = false)
    {s p : List Char} (hp : p ∈ splitTopLevel sep s) : Undivided sep 0 p := by
  induction s using splitTopLevel_induction hne hplain with
  | whole s hs =>
    rw [List.mem_singleton.1 hp]
    exact hs
  | cut q rest parts hq _ ih =>
    rcases List.mem_cons.1 hp with rfl | hp
    · exact hq
    · exact ih hp

end

/-! ### Cutting what was joined -/

/-- A separator that can be told from what it follows: no beginning of it is also an end of it. -/
structure IsSeparator (sep : List Char) : Prop where
  ne_nil : sep ≠ []
  plain : ∀ c ∈ sep, isBracket c = false
  /-- What begins and ends the separator is all of it. -/
  borderless : ∀ u, u ≠ [] → u <+: sep → u <:+ sep → u = sep

theorem isSeparator_singleton {c : Char} (hc : isBracket c = false) : IsSeparator [c] where
  ne_nil := List.cons_ne_nil _ _
  plain := fun x hx => List.mem_singleton.1 hx ▸ hc
  borderless := by
    intro u hu hprefix _
    exact hprefix.eq_of_length (Nat.le_antisymm hprefix.length_le (List.length_pos_iff.2 hu))

theorem isSeparator_comma : IsSeparator [','] := isSeparator_singleton (by decide)

section

variable {sep : List Char}

theorem splitFrom_append (hne : sep ≠ []) {p rest : List Char} : ∀ {depth : Int},
    (∀ before after, p = before ++ after → after ≠ [] → depthAfter depth before = 0 →
      ¬ sep <+: after ++ rest) →
    splitFrom sep depth 0 (p ++ rest) = prepend p (splitFrom sep (depthAfter depth p) 0 rest) := by
  induction p with
  | nil => intro depth _; rfl
  | cons c p ih =>
    intro depth h
    have hrest : ∀ before after, p = before ++ after → after ≠ [] →
        depthAfter (stepDepth depth c) before = 0 → ¬ sep <+: after ++ rest := by
      intro before after hp hafter hdepth
      exact h (c :: before) after (by rw [hp]; rfl) hafter hdepth
    rw [List.cons_append]
    rcases splitFrom_cons_cases hne depth c (p ++ rest) with ⟨hkept, -⟩ | ⟨more, hdepth, hs, -⟩
    · rw [hkept, ih hrest]
      rfl
    · exact absurd ⟨more, hs.symm⟩ (h [] (c :: p) rfl (List.cons_ne_nil _ _) hdepth)

theorem splitFrom_separator (hsep : IsSeparator sep) (s : List Char) :
    splitFrom sep 0 0 (sep ++ s) = [] :: splitFrom sep 0 0 s := by
  obtain ⟨a, sep', rfl⟩ := List.exists_cons_of_ne_nil hsep.ne_nil
  obtain ⟨ho, hcl⟩ := isBracket_eq_false.1 (hsep.plain a (by simp))
  have hprefix : (a :: sep').isPrefixOf (a :: (sep' ++ s)) = true := by
    rw [List.isPrefixOf_iff_prefix]
    exact List.prefix_append (a :: sep') s
  rw [List.cons_append, splitFrom, ho, hcl, hprefix, List.length_cons, Nat.add_sub_cancel,
    splitFrom_drop (a :: sep') 0 sep'.length, List.drop_left]
  rfl

theorem not_prefix_of_undivided (hsep : IsSeparator sep) {p before after : List Char}
    (hp : Undivided sep 0 p) (hsplit : p = before ++ after) (hne : after ≠ [])
    (hdepth : depthAfter 0 before = 0) {rest : List Char} (hrest : rest = [] ∨ sep <+: rest) :
    ¬ sep <+: after ++ rest := by
  rintro ⟨more, hmore⟩
  rcases List.append_eq_append_iff.1 hmore with ⟨tail, htail, -⟩ | ⟨v, hv, hvrest⟩
  · exact hp before tail (by rw [hsplit, htail, List.append_assoc]) hdepth
  · by_cases hv0 : v = []
    · rw [hv0, List.append_nil] at hv
      exact hp before [] (by rw [hsplit, hv, List.append_nil]) hdepth
    · -- the separator ends with `v`, with which what follows the part begins
      have hseprest : sep <+: rest := by
        rcases hrest with rfl | hrest
        · exact absurd (List.append_eq_nil_iff.1 hvrest.symm).1 hv0
        · exact hrest
      have hlength := congrArg List.length hv
      rw [List.length_append] at hlength
      have hpos := List.length_pos_iff.2 hne
      have hvsep : v <+: sep :=
        List.prefix_of_prefix_length_le ⟨more, hvrest.symm⟩ hseprest (by omega)
      rw [hsep.borderless v hv0 hvsep ⟨after, hv.symm⟩] at hlength
      omega

theorem splitTopLevel_append (hsep : IsSeparator sep) {p rest : List Char}
    (hp : Undivided sep 0 p) (hdepth : depthAfter 0 p = 0) (hrest : rest = [] ∨ sep <+: rest) :
    splitTopLevel sep (p ++ rest) = prepend p (splitTopLevel sep rest) := by
  rw [splitTopLevel, splitFrom_append hsep.ne_nil fun before after hsplit hne hd =>
    not_prefix_of_undivided hsep hp hsplit hne hd hrest, hdepth, splitTopLevel]

theorem splitTopLevel_join (hsep : IsSeparator sep) {parts : List (List Char)} (hne : parts ≠ [])
    (hparts : ∀ p ∈ parts, Undivided sep 0 p) (hdepth : ∀ p ∈ parts, depthAfter 0 p = 0) :
    splitTopLevel sep (sep.intercalate parts) = parts := by
  induction parts with
  | nil => exact absurd rfl hne
  | cons p parts ih =>
    have hp := hparts p (by simp)
    have hd := hdepth p (by simp)
    cases parts with
    | nil =>
      have h := splitTopLevel_append hsep hp hd (.inl rfl)
      rw [List.append_nil] at h
      rw [List.intercalate_singleton, h]
      exact (prepend_cons p [] []).trans (by rw [List.append_nil])
    | cons q parts =>
      have htail := ih (List.cons_ne_nil _ _) (fun x hx => hparts x (by simp [hx]))
        fun x hx => hdepth x (by simp [hx])
      rw [List.intercalate_cons_cons, List.append_assoc,
        splitTopLevel_append hsep hp hd (.inr (List.prefix_append _ _)), splitTopLevel,
        splitFrom_separator hsep, prepend_cons, List.append_nil]
      exact congrArg (p :: ·) htail

end

end Grounding.Text

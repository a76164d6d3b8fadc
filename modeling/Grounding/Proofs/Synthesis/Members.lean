import Grounding.Proofs.Text.Splitting
import Grounding.Proofs.Text.Stripping
import Grounding.Synthesis.Create

/-!
# The parts of a composite literal

What stands between the delimiters of a composite literal, and on the two sides of an equals sign,
is found again when the literal is read.
-/

namespace Grounding.Synthesis

open Text

theorem isSeparator_memberSeparator : IsSeparator memberSeparator where
  ne_nil := by decide
  plain := by
    intro c hc
    rcases List.mem_cons.1 hc with rfl | hc
    · decide
    · rw [List.mem_singleton.1 hc]
      decide
  borderless := by
    intro u hu hprefix hsuffix
    have hlength := hprefix.length_le
    match u, hu with
    | [a], _ =>
      have hcomma : a = ',' := (List.cons_prefix_cons.1 hprefix).1
      have hblank : a = ' ' := by simpa [memberSeparator, List.suffix_cons_iff] using hsuffix
      rw [hcomma] at hblank
      cases hblank
    | [a, b], _ => exact hprefix.eq_of_length rfl
    | _ :: _ :: _ :: _, _ =>
      simp only [memberSeparator, List.length_cons, List.length_nil] at hlength
      omega

theorem isSeparator_equals : IsSeparator ['='] := isSeparator_singleton (by decide)

/-! ### Texts that are left whole -/

/-- A text that may stand between two separators of a composite literal. -/
structure IsMember (s : List Char) : Prop where
  balanced : balanced s = true
  undivided : Undivided memberSeparator 0 s
  not_blank : strip s ≠ []

/-- A text that may stand on one side of an equals sign in a composite literal. -/
structure IsComponent (s : List Char) : Prop extends IsMember s where
  no_equals : Undivided ['='] 0 s

/-- A text that is not split or left out when it stands in a literal. -/
structure IsPlain (s : List Char) : Prop where
  not_blank : strip s ≠ []
  no_bracket : ∀ c ∈ s, isBracket c = false
  no_equals : '=' ∉ s
  no_separator : ¬ memberSeparator <:+: s

theorem IsPlain.ne_nil {s : List Char} (h : IsPlain s) : s ≠ [] := by
  rintro rfl
  exact h.not_blank rfl

/-- Whether a character may stand anywhere in a literal. -/
def isInert (c : Char) : Bool := !isBlank c && !isBracket c && c != '='

theorem isInert_iff {c : Char} :
    isInert c = true ↔ isBlank c = false ∧ isBracket c = false ∧ c ≠ '=' := by
  simp [isInert, and_assoc]

theorem isPlain_of_inert {s : List Char} (hne : s ≠ []) (hs : s.all isInert = true) :
    IsPlain s := by
  have hall := fun c hc => isInert_iff.1 (List.all_eq_true.1 hs c hc)
  refine ⟨?_, fun c hc => (hall c hc).2.1, fun h => (hall _ h).2.2 rfl, ?_⟩
  · rw [strip_eq_self_of_no_blank fun c hc => (hall c hc).1]
    exact hne
  · rintro ⟨before, after, rfl⟩
    have hblank := (hall ' ' (by simp [memberSeparator])).1
    revert hblank
    decide

theorem isComponent_of_isPlain {s : List Char} (h : IsPlain s) : IsComponent s where
  balanced := balanced_plain h.no_bracket
  undivided := undivided_of_not_infix h.no_separator 0
  not_blank := h.not_blank
  no_equals := undivided_of_not_mem h.no_equals 0

theorem balanced_join {parts : List (List Char)} (hparts : ∀ p ∈ parts, IsMember p) :
    balanced (memberSeparator.intercalate parts) = true :=
  balanced_intercalate (balanced_plain isSeparator_memberSeparator.plain)
    fun p hp => (hparts p hp).balanced

theorem isComponent_enclosed (b : Bracket) {parts : List (List Char)}
    (hparts : ∀ p ∈ parts, IsMember p) :
    IsComponent (b.opening :: memberSeparator.intercalate parts ++ [b.closing]) := by
  have hinner := balanced_join hparts
  refine ⟨⟨balanced_enclosed b hinner, ?_, ?_⟩, ?_⟩
  · exact undivided_enclosed isSeparator_memberSeparator.ne_nil isSeparator_memberSeparator.plain b
      hinner
  · rw [Ne, strip_eq_nil_iff]
    intro h
    have hblank := h b.opening (by simp)
    cases b <;> revert hblank <;> decide
  · exact undivided_enclosed isSeparator_equals.ne_nil isSeparator_equals.plain b hinner

theorem isMember_equals {s t : List Char} (hs : IsMember s) (ht : IsMember t) :
    IsMember (s ++ '=' :: t) := by
  have hequals : balanced ['='] = true := balanced_plain isSeparator_equals.plain
  refine ⟨balanced_append hs.balanced (balanced_append hequals ht.balanced), ?_, ?_⟩
  · refine hs.undivided.append_cons isSeparator_memberSeparator.ne_nil (by decide) ?_
    rw [depthAfter_balanced hs.balanced, stepDepth_plain (by decide)]
    exact ht.undivided
  · intro h
    rw [strip_eq_nil_iff] at h
    have hblank := h '=' (by simp)
    revert hblank
    decide

/-! ### Reading them -/

theorem strip_intercalate_ne_nil {sep p : List Char} {parts : List (List Char)}
    (hp : strip p ≠ []) : strip (sep.intercalate (p :: parts)) ≠ [] := by
  rw [Ne, strip_eq_nil_iff] at hp ⊢
  refine fun h => hp fun x hx => h x ?_
  cases parts with
  | nil => simpa using hx
  | cons q parts => simp [List.intercalate_cons_cons, hx]

theorem members_enclosed (b : Bracket) {parts : List (List Char)}
    (hparts : ∀ p ∈ parts, IsMember p) :
    members b (b.opening :: memberSeparator.intercalate parts ++ [b.closing]) =
      .ok (parts.map some) := by
  have hinner := balanced_join hparts
  rw [List.cons_append, members]
  simp only [List.getLast?_concat, List.dropLast_concat, BEq.rfl, Bool.and_self, if_true, hinner,
    Bool.not_true, Bool.false_eq_true, if_false]
  cases parts with
  | nil => rfl
  | cons p parts =>
    have hstrip : strip (memberSeparator.intercalate (p :: parts)) ≠ [] :=
      strip_intercalate_ne_nil (hparts p (by simp)).not_blank
    rw [← List.isEmpty_eq_false_iff] at hstrip
    rw [hstrip, if_neg Bool.false_ne_true,
      splitTopLevel_join isSeparator_memberSeparator (by simp) (fun p hp => (hparts p hp).undivided)
        fun p hp => depthAfter_balanced (hparts p hp).balanced]

theorem components_equals {s t : List Char} (hs : IsComponent s) (ht : IsComponent t) :
    components (s ++ '=' :: t) = .ok (s, t) := by
  have hparts : splitTopLevel ['='] (s ++ '=' :: t) = [s, t] := by
    have hjoin : s ++ '=' :: t = ['='].intercalate [s, t] := by simp [List.intercalate_cons_cons]
    rw [hjoin]
    refine splitTopLevel_join isSeparator_equals (by simp) ?_ ?_
    · simp [hs.no_equals, ht.no_equals]
    · simp [depthAfter_balanced, hs.balanced, ht.balanced]
  simp only [components, hparts]

end Grounding.Synthesis

import Grounding.Proofs.Synthesis.Observation
import Grounding.Proofs.Value.Ordering
import Grounding.Synthesis.Model
import Grounding.Synthesis.Advance
import Mathlib.Data.List.Lex

/-!
# Neighbours above and below

A move up leads from a number, a text or a character to a greater one, and a move down from a number
or a character above the floor to a lesser one. Of a text, a move down makes one that begins with
the prefix, and that is not always a lesser one: it lies below the text exactly if the text comes
after the prefix however often that is repeated, and above it if not (`append_lt_self_iff`). From
all other values the moves follow the order (`moves_follow_order`).
-/

namespace Grounding

open Synthesis Outcome Value

namespace Text

/-! ### Texts with more in front -/

theorem prefix_of_between {a s t : List Char} (has : ¬ s < a) (hst : ¬ a ++ t < s) : a <+: s := by
  induction a generalizing s with
  | nil => exact List.nil_prefix
  | cons c a ih =>
    cases s with
    | nil => exact absurd (List.nil_lt_cons c a) has
    | cons d s =>
      rw [List.cons_append] at hst
      simp only [List.cons_lt_cons_iff, not_or, not_and] at has hst
      have hcd : d = c := le_antisymm (not_lt.1 hst.1) (not_lt.1 has.1)
      subst hcd
      rw [List.prefix_cons_inj]
      exact ih (has.2 rfl) (hst.2 rfl)

/-- A text lies above what it becomes with another one in front if and only if it comes after all
repetitions of that one. -/
theorem append_lt_self_iff {p : List Char} (hp : p ≠ []) (s : List Char) :
    p ++ s < s ↔ ∀ n, (List.replicate n p).flatten < s := by
  constructor
  · intro h n
    induction n with
    | zero =>
      cases s with
      | nil => exact absurd h (List.not_lt_nil _)
      | cons c s => exact List.nil_lt_cons c s
    | succ n ih =>
      rw [List.replicate_succ, List.flatten_cons]
      exact lt_trans (List.append_left_lt ih) h
  · intro h
    by_contra hle
    -- then adding the text in front again and again leads further up
    have hclimb : ∀ n, s ≤ (List.replicate n p).flatten ++ s := by
      intro n
      induction n with
      | zero => exact le_refl s
      | succ n ih =>
        rw [List.replicate_succ, List.flatten_cons, List.append_assoc]
        rcases eq_or_lt_of_le ih with heq | hlt
        · rw [← heq]
          exact not_lt.1 hle
        · exact le_of_lt (lt_of_le_of_lt (not_lt.1 hle) (List.append_left_lt hlt))
    -- so the text would begin with more repetitions than it has characters
    have hprefix := prefix_of_between (lt_asymm (h (s.length + 1))) (not_lt.2 (hclimb _))
    have hlength := hprefix.length_le
    have hpos := List.length_pos_iff.2 hp
    rw [List.length_flatten, List.map_replicate, List.sum_replicate_nat] at hlength
    have hmany : (s.length + 1) * 1 ≤ (s.length + 1) * p.length := Nat.mul_le_mul_left _ hpos
    omega

end Text

namespace Value

/-! ### The order of values of one type -/

theorem singleton_lt_singleton_iff {c d : Char} :
    String.singleton c < String.singleton d ↔ c.toNat < d.toNat := by
  rw [String.lt_iff_toList_lt, String.toList_singleton, String.toList_singleton,
    List.cons_lt_cons_iff]
  simp [Char.lt_def, UInt32.lt_iff_toNat_lt]

end Value

/-! ### Floors and prefixes -/

/-- The value of a primitive type that a move down leaves as it is. -/
def Primitive.floor? (p : Primitive) : Option Value :=
  match p.scalar with
  | .text => some (.text "")
  | .character => some (.text (String.singleton characterFloor))
  | .boolean | .integral | .floating => Option.none

namespace Synthesis

/-- What a number of moves down put in front of a text. -/
def prefixes (n : ℕ) : String := String.ofList (List.replicate n textPrefix.toList).flatten

/-- A value that is no text, or a text that comes after any number of prefixes. -/
def IsAbovePrefixes (p : Primitive) (x : Value) : Prop :=
  ∀ s, p.scalar = .text → x = .text s → ∀ n, prefixes n < s

theorem textPrefix_append_lt_iff (s : String) : textPrefix ++ s < s ↔ ∀ n, prefixes n < s := by
  have hne : textPrefix.toList ≠ [] := by decide
  have hlists := Text.append_lt_self_iff hne s.toList
  simp only [String.lt_iff_toList_lt, String.toList_append, prefixes, String.toList_ofList]
  exact hlists

theorem lt_textPrefix_append_iff (s : String) :
    s < textPrefix ++ s ↔ ¬ ∀ n, prefixes n < s := by
  have hapart : s ≠ textPrefix ++ s := by
    intro h
    have hlength := congrArg String.length h
    have hpos : 0 < textPrefix.length := by decide
    rw [String.length_append] at hlength
    omega
  rw [← textPrefix_append_lt_iff, not_lt]
  exact ⟨le_of_lt, fun hle => lt_of_le_of_ne hle hapart⟩

/-! ### Characters -/

theorem toNat_ofNat_of_isValidChar {n : Nat} (h : n.isValidChar) : (Char.ofNat n).toNat = n := by
  rw [Char.ofNat, dif_pos h]
  rfl

theorem lt_of_nextChar? {c d : Char} (h : nextChar? c = some d) : c.toNat < d.toNat := by
  simp only [nextChar?, beq_iff_eq, Option.ite_none_right_eq_some, Option.some.injEq] at h
  obtain ⟨hvalid, rfl⟩ := h
  rw [toNat_ofNat_of_isValidChar hvalid]
  split <;> omega

theorem lt_of_previousChar? {c d : Char} (h : previousChar? c = some d) : d.toNat < c.toNat := by
  have hc : c.toNat < 0xd800 ∨ 0xdfff < c.toNat ∧ c.toNat < 0x110000 := c.valid
  simp only [previousChar?, beq_iff_eq, Option.ite_none_left_eq_some, Option.some.injEq] at h
  obtain ⟨hzero, rfl⟩ := h
  have hvalid : (if c.toNat = 0xe000 then 0xd7ff else c.toNat - 1).isValidChar := by
    unfold Nat.isValidChar
    split <;> omega
  rw [toNat_ofNat_of_isValidChar hvalid]
  split <;> omega

theorem moveCharacter_up_eq_ok_iff {c : Char} {y : Value} :
    moveCharacter .up (.text (String.singleton c)) = .ok y ↔
      ∃ d, nextChar? c = some d ∧ .text (String.singleton d) = y := by
  simp only [moveCharacter, String.toList_singleton]
  cases nextChar? c <;> simp

theorem moveCharacter_down_eq_ok_iff {c : Char} {y : Value} :
    moveCharacter .down (.text (String.singleton c)) = .ok y ↔
      c = characterFloor ∧ .text (String.singleton c) = y ∨
        c ≠ characterFloor ∧ ∃ d, previousChar? c = some d ∧ .text (String.singleton d) = y := by
  simp only [moveCharacter, String.toList_singleton]
  by_cases hc : c = characterFloor
  · simp [hc]
  · cases previousChar? c <;> simp [hc]

/-! ### Moves -/

variable {p : Primitive} {x y : Value}

theorem before?_movePrimitive_up
    (hp : p.scalar = .integral ∨ p.scalar = .text ∨ p.scalar = .character)
    (hx : p.Admits x) (h : movePrimitive .up p x = .ok y) : before? x y = some true := by
  unfold movePrimitive at h
  unfold Primitive.Admits at hx
  generalize p.scalar = k at hp hx h
  cases hx with
  | integral n =>
    obtain rfl := Except.ok.inj h
    rw [before?_int, decide_eq_true (Int.lt_succ n)]
  | text s =>
    obtain rfl := Except.ok.inj h
    have hlonger : s < s ++ textSuffix := by
      rw [String.lt_iff_toList_lt, String.toList_append]
      conv_lhs => rw [← List.append_nil s.toList]
      exact List.append_left_lt (by decide)
    rw [before?_text, decide_eq_true hlonger]
  | character c =>
    obtain ⟨d, hd, rfl⟩ := moveCharacter_up_eq_ok_iff.1 h
    rw [before?_text, decide_eq_true (singleton_lt_singleton_iff.2 (lt_of_nextChar? hd))]
  | boolean b => simp at hp
  | floating z => simp at hp
  | nan mark => simp at hp

/-- A move down leaves a floor as it is, and leads from any other value to a lesser one, except that
it makes a greater text of one that does not come after all numbers of prefixes. -/
theorem before?_movePrimitive_down
    (hp : p.scalar = .integral ∨ p.scalar = .text ∨ p.scalar = .character)
    (hx : p.Admits x) (h : movePrimitive .down p x = .ok y) :
    (p.floor? = some x → y = x) ∧
    (p.floor? ≠ some x → IsAbovePrefixes p x → before? y x = some true) ∧
    (p.floor? ≠ some x → ¬ IsAbovePrefixes p x → before? x y = some true) := by
  unfold movePrimitive at h
  unfold Primitive.Admits at hx
  unfold Primitive.floor? IsAbovePrefixes
  generalize p.scalar = k at hp hx h
  cases hx with
  | integral n =>
    obtain rfl := Except.ok.inj h
    have hless : before? (int (n + -1)) (int n) = some true := by
      rw [before?_int, decide_eq_true (by omega)]
    simp [hless]
  | text s =>
    obtain rfl := Except.ok.inj h
    by_cases hs : s = ""
    · simp [hs]
    · have hempty : s.isEmpty = false := by simpa using hs
      have habove := textPrefix_append_lt_iff s
      have hbelow := lt_textPrefix_append_iff s
      simp only [hempty, before?_text, Option.some.injEq, decide_eq_true_eq, Value.text.injEq,
        forall_const, forall_eq']
      exact ⟨fun h => absurd h.symm hs, fun _ => habove.2, fun _ => hbelow.2⟩
  | character c =>
    rcases moveCharacter_down_eq_ok_iff.1 h with ⟨rfl, rfl⟩ | ⟨hc, d, hd, rfl⟩
    · simp
    · have hless := singleton_lt_singleton_iff.2 (lt_of_previousChar? hd)
      simp [before?_text, String.singleton_inj, Ne.symm hc, hless]
  | boolean b => simp at hp
  | floating z => simp at hp
  | nan mark => simp at hp

/-- Moves up from numbers, texts and characters lead to greater values. Moves down lead to lesser
ones, or stay at a floor, except from texts that do not come after all numbers of prefixes. That is
so in models and in drivers. -/
theorem moves_follow_order {m : Type → Type} [Monad m] [MonadExcept Fault m] {σ : Type}
    (o : Observation m σ) (ext : Externals m) (s s' : σ)
    (hp : p.scalar = .integral ∨ p.scalar = .text ∨ p.scalar = .character) (hx : p.Admits x) :
    (∀ y, o.Yields (successor ext (.primitive p) x) s y s' → before? x y = some true) ∧
    ∀ y, o.Yields (predecessor ext (.primitive p) x) s y s' →
      (p.floor? = some x → y = x) ∧
      (p.floor? ≠ some x → IsAbovePrefixes p x → before? y x = some true) ∧
      (p.floor? ≠ some x → ¬ IsAbovePrefixes p x → before? x y = some true) := by
  constructor
  · intro y h
    rw [successor, move, o.yields_checked_iff] at h
    exact before?_movePrimitive_up hp hx h.1
  · intro y h
    rw [predecessor, move, o.yields_checked_iff] at h
    exact before?_movePrimitive_down hp hx h.1

/-- The letter A comes before the prefix, so the move down from it goes up. -/
theorem moves_follow_order_letter :
    Primitive.string.Admits (.text "A") ∧
      successor Model.externals (.primitive .string) (.text "A") =
        (.ok (.text "A~Z") : Except Fault Value) ∧
      before? (.text "A") (.text "A~Z") = some true ∧
      predecessor Model.externals (.primitive .string) (.text "A") =
        (.ok (.text "A-A") : Except Fault Value) ∧
      ¬ IsAbovePrefixes .string (.text "A") ∧
      before? (.text "A") (.text "A-A") = some true := by
  have hadmits : Primitive.string.Admits (.text "A") := .text "A"
  have hup : successor Model.externals (.primitive .string) (.text "A") =
      (.ok (.text "A~Z") : Except Fault Value) :=
    rfl
  have hdown : predecessor Model.externals (.primitive .string) (.text "A") =
      (.ok (.text "A-A") : Except Fault Value) :=
    rfl
  have hfloor : Primitive.string.floor? ≠ some (.text "A") := by
    simp [Primitive.floor?, Primitive.scalar]
  have hbelow : ¬ IsAbovePrefixes .string (.text "A") := by
    intro habove
    exact absurd (habove "A" rfl rfl 1) (by decide)
  obtain ⟨hgreater, hlesser⟩ :=
    moves_follow_order Observation.model Model.externals () () (.inr (.inl rfl)) hadmits
  exact ⟨hadmits, hup, hgreater _ hup, hdown, hbelow, (hlesser _ hdown).2.2 hfloor hbelow⟩

/-- So moves down do not always lead to lesser values, even away from the floors. -/
theorem predecessor_exceeds_letter :
    ¬ ∀ (p : Primitive) (x y : Value),
      p.scalar = .integral ∨ p.scalar = .text ∨ p.scalar = .character → p.Admits x →
      predecessor Model.externals (.primitive p) x = (.ok y : Except Fault Value) →
      before? y x = some true ∨ p.floor? = some x ∧ y = x := by
  intro hlesser
  have hdown : predecessor Model.externals (.primitive .string) (.text "A") =
      (.ok (.text "A-A") : Except Fault Value) :=
    rfl
  rcases hlesser .string (.text "A") _ (.inr (.inl rfl)) (.text "A") hdown with hless | ⟨hfloor, -⟩
  · rw [before?_text] at hless
    exact absurd hless (by decide)
  · simp [Primitive.floor?, Primitive.scalar] at hfloor

end Synthesis

end Grounding

import Grounding.Proofs.Number.Decimal
import Grounding.Proofs.Synthesis.Members
import Grounding.Proofs.Value.Ordering

/-!
# What literals look like

The literals of composite values stand between brackets, and what a plain value is written as has
nothing in it that a reader would split at. So a literal may be a member of another one, and the
literal of anything but a pair may be a component of a pair.
-/

namespace Grounding

open Text Synthesis

namespace Value

mutual

def texts : Value → List String
  | text s => [s]
  | entity name => [name]
  | pair a b => texts a ++ texts b
  | list xs | tuple xs | set xs => itemTexts xs
  | map es => entryTexts es
  | object _ fs => fieldTexts fs
  | _ => []

def itemTexts : List Value → List String
  | [] => []
  | x :: xs => texts x ++ itemTexts xs

/-- The texts and identifiers in the keys and values of a map. -/
def entryTexts : List (Value × Value) → List String
  | [] => []
  | (k, x) :: rest => texts k ++ texts x ++ entryTexts rest

def fieldTexts : List (String × Value) → List String
  | [] => []
  | (_, x) :: rest => texts x ++ fieldTexts rest

end

/-- A value whose integers are not too long and whose texts are plain. -/
structure IsLegible (x : Value) : Prop where
  writable : x.isWritable = true
  plain : ∀ s ∈ x.texts, IsPlain s.toList

theorem isLegible_items {xs : List Value} (hwritable : areWritable xs = true)
    (hplain : ∀ s ∈ itemTexts xs, IsPlain s.toList) : ∀ x ∈ xs, x.IsLegible := by
  induction xs with
  | nil => simp
  | cons x xs ih =>
    rw [areWritable, Bool.and_eq_true] at hwritable
    simp only [itemTexts, List.mem_append] at hplain
    rw [List.forall_mem_cons]
    exact ⟨⟨hwritable.1, fun s hs => hplain s (.inl hs)⟩,
      ih hwritable.2 fun s hs => hplain s (.inr hs)⟩

theorem isLegible_entries {es : List (Value × Value)} (hwritable : entriesAreWritable es = true)
    (hplain : ∀ s ∈ entryTexts es, IsPlain s.toList) :
    ∀ e ∈ es, e.1.IsLegible ∧ e.2.IsLegible := by
  induction es with
  | nil => simp
  | cons e es ih =>
    obtain ⟨k, x⟩ := e
    simp only [entriesAreWritable, Bool.and_eq_true] at hwritable
    simp only [entryTexts, List.mem_append] at hplain
    rw [List.forall_mem_cons]
    exact ⟨⟨⟨hwritable.1.1, fun s hs => hplain s (.inl (.inl hs))⟩,
      hwritable.1.2, fun s hs => hplain s (.inl (.inr hs))⟩,
      ih hwritable.2 fun s hs => hplain s (.inr hs)⟩

theorem IsLegible.pair {a b : Value} (h : (pair a b).IsLegible) : a.IsLegible ∧ b.IsLegible := by
  obtain ⟨hwritable, hplain⟩ := h
  simp only [isWritable, Bool.and_eq_true] at hwritable
  simp only [texts, List.mem_append] at hplain
  exact ⟨⟨hwritable.1, fun s hs => hplain s (.inl hs)⟩, hwritable.2,
    fun s hs => hplain s (.inr hs)⟩

theorem IsLegible.list {xs : List Value} (h : (list xs).IsLegible) : ∀ x ∈ xs, x.IsLegible :=
  isLegible_items h.writable h.plain

theorem IsLegible.set {xs : List Value} (h : (set xs).IsLegible) : ∀ x ∈ xs, x.IsLegible :=
  isLegible_items h.writable h.plain

theorem IsLegible.map {es : List (Value × Value)} (h : (map es).IsLegible) :
    ∀ e ∈ es, e.1.IsLegible ∧ e.2.IsLegible :=
  isLegible_entries h.writable h.plain

/-! ### The literals of the parts -/

theorem itemLiterals_eq (xs : List Value) :
    itemLiterals xs = xs.map fun x => (x, x.literalChars) := by
  induction xs with
  | nil => rfl
  | cons x xs ih => rw [itemLiterals, ih, List.map_cons]

theorem entryLiterals_eq (es : List (Value × Value)) :
    entryLiterals es = es.map fun e => e.1.literalChars ++ '=' :: e.2.literalChars := by
  induction es with
  | nil => rfl
  | cons e es ih => rw [entryLiterals, ih, List.map_cons]

theorem literalChars_list (xs : List Value) :
    (list xs).literalChars = '[' :: commaJoin (xs.map literalChars) ++ [']'] := by
  rw [literalChars, itemLiterals_eq, List.map_map]
  rfl

theorem literalChars_set (xs : List Value) :
    (set xs).literalChars = (list (sortBy id xs)).literalChars := by
  rw [literalChars, literalChars, itemLiterals_eq, itemLiterals_eq, sortBy_map]
  rfl

theorem literalChars_map (es : List (Value × Value)) :
    (map es).literalChars =
      '\x7b' :: commaJoin (es.map fun e => e.1.literalChars ++ '=' :: e.2.literalChars) ++
        ['\x7d'] := by
  rw [literalChars, entryLiterals_eq]

/-! ### Plain literals -/

theorem isPlain_literal_int (n : Int) : IsPlain (int n).literalChars := by
  have hdigits : (toString n).toList ≠ [] := by
    rw [Numeral.toList_toString]
    simp [Nat.toDigits_ne_nil]
  rw [literalChars]
  refine isPlain_of_inert hdigits (List.all_eq_true.2 fun c hc => isInert_iff.2 ?_)
  have hwritten := Numeral.isWritten_of_mem_toString hc
  exact ⟨hwritten.not_blank, hwritten.not_bracket, hwritten.ne (by decide)⟩

theorem isPlain_literal_bool (b : Bool) : IsPlain (bool b).literalChars := by
  refine isPlain_of_inert ?_ ?_
  · cases b <;> decide
  · cases b <;> decide

theorem isPlain_literal_of_admits {p : Primitive} {x : Value} (hp : p.scalar ≠ .floating)
    (hx : p.Admits x) (hlegible : x.IsLegible) : IsPlain x.literalChars := by
  unfold Primitive.Admits at hx
  generalize p.scalar = k at hp hx
  cases hx with
  | text s => exact hlegible.plain s (List.mem_singleton_self s)
  | character c => exact hlegible.plain _ (List.mem_singleton_self _)
  | boolean b => exact isPlain_literal_bool b
  | integral n => exact isPlain_literal_int n
  | floating y => exact absurd rfl hp
  | nan mark => exact absurd rfl hp

end Value

/-- Whether no pair stands directly in a pair or in a map, where its equals sign would be taken for
the outer one. -/
def Descriptor.hasPairsApart : Descriptor → Bool
  | primitive _ | external _ => true
  | list e | set e => e.hasPairsApart
  | map a b | pair a b =>
    a.kind != .container .pair && b.kind != .container .pair && a.hasPairsApart && b.hasPairsApart

namespace Value

theorem literal_shape {d : Descriptor} {x : Value} (h : x.Inhabits d)
    (hfloat : d.isFloatFree = true) (hpairs : d.hasPairsApart = true) (hx : x.IsLegible) :
    IsMember x.literalChars ∧ (d.kind ≠ .container .pair → IsComponent x.literalChars) := by
  induction h with
  | primitive hp =>
    have hcomponent := isComponent_of_isPlain
      (isPlain_literal_of_admits (bne_iff_ne.1 hfloat) hp hx)
    exact ⟨hcomponent.toIsMember, fun _ => hcomponent⟩
  | entity name type =>
    have hcomponent := isComponent_of_isPlain (hx.plain name (by simp [texts]))
    rw [literalChars]
    exact ⟨hcomponent.toIsMember, fun _ => hcomponent⟩
  | @list xs _ _ ih =>
    have hparts : ∀ p ∈ xs.map literalChars, IsMember p := by
      rw [List.forall_mem_map]
      exact fun x hmem => (ih x hmem hfloat hpairs (hx.list x hmem)).1
    have hcomponent := isComponent_enclosed .square hparts
    rw [literalChars_list]
    exact ⟨hcomponent.toIsMember, fun _ => hcomponent⟩
  | @set xs _ _ _ ih =>
    have hparts : ∀ p ∈ (sortBy id xs).map literalChars, IsMember p := by
      rw [List.forall_mem_map]
      intro y hmem
      rw [(sortBy_perm id xs).mem_iff] at hmem
      exact (ih y hmem hfloat hpairs (hx.set y hmem)).1
    have hcomponent := isComponent_enclosed .square hparts
    rw [literalChars_set, literalChars_list]
    exact ⟨hcomponent.toIsMember, fun _ => hcomponent⟩
  | @map es _ _ _ _ _ ihk ihv =>
    simp only [Descriptor.isFloatFree, Descriptor.hasPairsApart, Bool.and_eq_true] at hfloat hpairs
    have hparts : ∀ p ∈ es.map fun e => e.1.literalChars ++ '=' :: e.2.literalChars,
        IsMember p := by
      rw [List.forall_mem_map]
      intro e hmem
      obtain ⟨hkey, hitem⟩ := hx.map e hmem
      exact isMember_equals (ihk e hmem hfloat.1 hpairs.1.2 hkey).1
        (ihv e hmem hfloat.2 hpairs.2 hitem).1
    have hcomponent := isComponent_enclosed .curly hparts
    rw [literalChars_map]
    exact ⟨hcomponent.toIsMember, fun _ => hcomponent⟩
  | pair _ _ iha ihb =>
    simp only [Descriptor.isFloatFree, Descriptor.hasPairsApart, Bool.and_eq_true] at hfloat hpairs
    obtain ⟨hfirst, hsecond⟩ := hx.pair
    rw [literalChars]
    exact ⟨isMember_equals (iha hfloat.1 hpairs.1.2 hfirst).1 (ihb hfloat.2 hpairs.2 hsecond).1,
      fun hkind => absurd rfl hkind⟩

end Value

end Grounding

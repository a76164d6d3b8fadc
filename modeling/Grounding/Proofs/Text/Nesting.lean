import Grounding.Text.Bracket

/-!
# Nesting

What is open at each place of a text, as a stack of brackets, next to the depth that only counts. A
text is balanced when it ends with the empty stack, and then the depth at every place is the height
of the stack there. So balanced texts start and end at depth zero, never fall below it, and may be
joined and enclosed.
-/

namespace Grounding.Text

/-! ### The characters -/

theorem Bracket.ofOpening?_opening (b : Bracket) : ofOpening? b.opening = some b := by
  cases b <;> decide

theorem Bracket.ofOpening?_closing (b : Bracket) : ofOpening? b.closing = none := by
  cases b <;> decide

theorem Bracket.ofClosing?_closing (b : Bracket) : ofClosing? b.closing = some b := by
  cases b <;> decide

@[simp]
theorem isOpening_opening (b : Bracket) : isOpening b.opening = true := by
  rw [isOpening, b.ofOpening?_opening, Option.isSome_some]

@[simp]
theorem isClosing_closing (b : Bracket) : isClosing b.closing = true := by
  rw [isClosing, b.ofClosing?_closing, Option.isSome_some]

theorem isBracket_opening (b : Bracket) : isBracket b.opening = true := by
  rw [isBracket, isOpening_opening, Bool.true_or]

theorem isBracket_closing (b : Bracket) : isBracket b.closing = true := by
  rw [isBracket, isClosing_closing, Bool.or_true]

theorem exists_bracket_of_isBracket {c : Char} (h : isBracket c = true) :
    ∃ b : Bracket, c = b.opening ∨ c = b.closing := by
  rw [isBracket, Bool.or_eq_true, isOpening, isClosing, Bracket.ofOpening?, Bracket.ofClosing?,
    Option.isSome_iff_exists, Option.isSome_iff_exists] at h
  rcases h with ⟨b, hb⟩ | ⟨b, hb⟩
  · have hb := List.find?_some hb
    exact ⟨b, .inl (beq_iff_eq.1 hb).symm⟩
  · have hb := List.find?_some hb
    exact ⟨b, .inr (beq_iff_eq.1 hb).symm⟩

theorem isBracket_eq_false {c : Char} :
    isBracket c = false ↔ isOpening c = false ∧ isClosing c = false := by
  rw [isBracket, Bool.or_eq_false_iff]

/-! ### The stack -/

/-- The stack after one more character, unless that closes a group which is not open. -/
def stepOpen (stack : List Bracket) (c : Char) : Option (List Bracket) :=
  match Bracket.ofOpening? c, Bracket.ofClosing? c, stack with
  | some b, _, _ => some (b :: stack)
  | none, none, _ => some stack
  | none, some _, [] => none
  | none, some b, top :: below => if top == b then some below else none

/-- The groups that are open at the end of a text, innermost first. -/
def openAfter (stack : List Bracket) (s : List Char) : Option (List Bracket) :=
  s.foldlM stepOpen stack

@[simp]
theorem openAfter_nil (stack : List Bracket) : openAfter stack [] = some stack := rfl

theorem openAfter_cons (stack : List Bracket) (c : Char) (s : List Char) :
    openAfter stack (c :: s) = (stepOpen stack c).bind fun next => openAfter next s :=
  List.foldlM_cons ..

theorem openAfter_append (stack : List Bracket) (s t : List Char) :
    openAfter stack (s ++ t) = (openAfter stack s).bind fun next => openAfter next t :=
  List.foldlM_append ..

theorem stepOpen_opening (stack : List Bracket) (b : Bracket) :
    stepOpen stack b.opening = some (b :: stack) := by
  simp only [stepOpen, b.ofOpening?_opening]

theorem stepOpen_closing (stack : List Bracket) (b : Bracket) :
    stepOpen (b :: stack) b.closing = some stack := by
  simp only [stepOpen, b.ofOpening?_closing, b.ofClosing?_closing]
  exact if_pos (beq_self_eq_true b)

theorem stepOpen_plain {c : Char} (hc : isBracket c = false) (stack : List Bracket) :
    stepOpen stack c = some stack := by
  obtain ⟨ho, hcl⟩ := isBracket_eq_false.1 hc
  rw [isOpening, Option.isSome_eq_false_iff, Option.isNone_iff_eq_none] at ho
  rw [isClosing, Option.isSome_eq_false_iff, Option.isNone_iff_eq_none] at hcl
  simp only [stepOpen, ho, hcl]

theorem stepOpen_append {stack next : List Bracket} {c : Char} (h : stepOpen stack c = some next)
    (below : List Bracket) : stepOpen (stack ++ below) c = some (next ++ below) := by
  unfold stepOpen at h ⊢
  cases ho : Bracket.ofOpening? c with
  | some b =>
    simp only [ho, Option.some.injEq] at h ⊢
    rw [← h, List.cons_append]
  | none =>
    cases hc : Bracket.ofClosing? c with
    | none =>
      simp only [ho, hc, Option.some.injEq] at h ⊢
      rw [h]
    | some b =>
      cases stack with
      | nil => simp [ho, hc] at h
      | cons top rest =>
        simp only [ho, hc, List.cons_append] at h ⊢
        split at h
        · next htop => rw [if_pos htop, Option.some.inj h]
        · cases h

theorem openAfter_append_below {s : List Char} : ∀ {stack next : List Bracket},
    openAfter stack s = some next →
      ∀ below, openAfter (stack ++ below) s = some (next ++ below) := by
  induction s with
  | nil =>
    intro stack next h below
    rw [openAfter_nil, Option.some.injEq] at h ⊢
    rw [h]
  | cons c s ih =>
    intro stack next h below
    rw [openAfter_cons, Option.bind_eq_some_iff] at h
    obtain ⟨mid, hmid, h⟩ := h
    rw [openAfter_cons, stepOpen_append hmid below]
    exact ih h below

/-! ### The depth -/

@[simp]
theorem depthAfter_nil (depth : Int) : depthAfter depth [] = depth := rfl

@[simp]
theorem depthAfter_cons (depth : Int) (c : Char) (s : List Char) :
    depthAfter depth (c :: s) = depthAfter (stepDepth depth c) s := rfl

theorem depthAfter_append (depth : Int) (s t : List Char) :
    depthAfter depth (s ++ t) = depthAfter (depthAfter depth s) t := List.foldl_append ..

theorem stepDepth_plain {c : Char} (hc : isBracket c = false) (depth : Int) :
    stepDepth depth c = depth := by
  obtain ⟨ho, hcl⟩ := isBracket_eq_false.1 hc
  simp [stepDepth, ho, hcl]

theorem depthAfter_plain {s : List Char} (hs : ∀ c ∈ s, isBracket c = false) (depth : Int) :
    depthAfter depth s = depth := by
  induction s with
  | nil => rfl
  | cons c s ih =>
    rw [depthAfter_cons, stepDepth_plain (hs c (by simp)), ih fun x hx => hs x (by simp [hx])]

theorem stepDepth_of_stepOpen {stack next : List Bracket} {c : Char}
    (h : stepOpen stack c = some next) : stepDepth stack.length c = next.length := by
  unfold stepOpen at h
  unfold stepDepth isOpening isClosing
  cases ho : Bracket.ofOpening? c with
  | some b =>
    simp only [ho, Option.some.injEq] at h
    simp [← h]
  | none =>
    cases hc : Bracket.ofClosing? c with
    | none =>
      simp only [ho, hc, Option.some.injEq] at h
      simp [h]
    | some b =>
      cases stack with
      | nil => simp [ho, hc] at h
      | cons top below =>
        simp only [ho, hc] at h
        split at h
        · simp [Option.some.inj h]
        · cases h

theorem depthAfter_of_openAfter {s : List Char} : ∀ {stack next : List Bracket},
    openAfter stack s = some next → depthAfter stack.length s = next.length := by
  induction s with
  | nil =>
    intro stack next h
    rw [openAfter_nil, Option.some.injEq] at h
    rw [depthAfter_nil, h]
  | cons c s ih =>
    intro stack next h
    rw [openAfter_cons, Option.bind_eq_some_iff] at h
    obtain ⟨mid, hmid, h⟩ := h
    rw [depthAfter_cons, stepDepth_of_stepOpen hmid]
    exact ih h

/-! ### Balanced texts -/

theorem balancedFrom_eq (s : List Char) : ∀ stack : List Bracket,
    balancedFrom stack s = (openAfter stack s == some []) := by
  induction s with
  | nil => intro stack; cases stack <;> rfl
  | cons c s ih =>
    intro stack
    rw [openAfter_cons]
    unfold balancedFrom stepOpen
    cases Bracket.ofOpening? c with
    | some b => exact ih (b :: stack)
    | none =>
      cases Bracket.ofClosing? c with
      | none => exact ih stack
      | some b =>
        cases stack with
        | nil => rfl
        | cons top below =>
          by_cases htop : (top == b) = true
          · simp only [htop, if_true, Bool.true_and]
            exact ih below
          · simp only [htop, Bool.false_and]
            rfl

theorem balanced_iff {s : List Char} : balanced s = true ↔ openAfter [] s = some [] := by
  rw [balanced, balancedFrom_eq, beq_iff_eq]

/-- A balanced text leaves every stack as it was. -/
theorem openAfter_balanced {s : List Char} (hs : balanced s = true) (stack : List Bracket) :
    openAfter stack s = some stack :=
  openAfter_append_below (balanced_iff.1 hs) stack

theorem balanced_plain {s : List Char} (hs : ∀ c ∈ s, isBracket c = false) :
    balanced s = true := by
  rw [balanced_iff]
  induction s with
  | nil => rfl
  | cons c s ih =>
    rw [openAfter_cons, stepOpen_plain (hs c (by simp))]
    exact ih fun x hx => hs x (by simp [hx])

theorem balanced_append {s t : List Char} (hs : balanced s = true) (ht : balanced t = true) :
    balanced (s ++ t) = true := by
  rw [balanced_iff, openAfter_append, balanced_iff.1 hs]
  exact balanced_iff.1 ht

theorem balanced_enclosed {s : List Char} (b : Bracket) (hs : balanced s = true) :
    balanced (b.opening :: s ++ [b.closing]) = true := by
  rw [balanced_iff, List.cons_append, openAfter_cons, stepOpen_opening, Option.bind_some,
    openAfter_append, openAfter_balanced hs, Option.bind_some, openAfter_cons, stepOpen_closing]
  rfl

theorem balanced_intercalate {sep : List Char} (hsep : balanced sep = true)
    {parts : List (List Char)} (hparts : ∀ p ∈ parts, balanced p = true) : balanced (sep.intercalate parts) = true := by
  induction parts with
  | nil => rfl
  | cons p parts ih =>
    cases parts with
    | nil => simpa using hparts p (by simp)
    | cons q parts =>
      rw [List.intercalate_cons_cons]
      exact balanced_append (balanced_append (hparts p (by simp)) hsep)
        (ih fun x hx => hparts x (by simp [hx]))

theorem depthAfter_balanced {s : List Char} (hs : balanced s = true) : depthAfter 0 s = 0 :=
  depthAfter_of_openAfter (balanced_iff.1 hs)

theorem le_depthAfter_of_balanced {before after : List Char}
    (h : balanced (before ++ after) = true) (stack : List Bracket) :
    (stack.length : Int) ≤ depthAfter stack.length before := by
  rw [balanced_iff, openAfter_append, Option.bind_eq_some_iff] at h
  obtain ⟨inner, hinner, -⟩ := h
  have hdepth := depthAfter_of_openAfter (openAfter_append_below hinner stack)
  rw [List.nil_append] at hdepth
  rw [hdepth, List.length_append]
  omega

end Grounding.Text

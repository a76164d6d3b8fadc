import Grounding.Proofs.Text.Naming
import Mathlib.Data.List.SplitBy

/-!
# Snake case in one pass

Acronyms and words are split one after the other, and the second pass reads what the first has
written. Each pass puts underscores before the characters that meet a condition on themselves and
on their two neighbours. No underscore of the first pass meets the condition of the second, so that
one pass with both conditions does the same (`breakWords_breakAcronyms`). What is left are gaps,
which are the longest runs of characters that stand in no word (`joinWordsFrom_eq`).
-/

namespace Grounding.Text

/-! ### The definition -/

/-- The character in front of a place. -/
def charBefore? (s : List Char) : Nat → Option Char
  | 0 => none
  | i + 1 => s[i]?

/--
Whether a word begins at a place of a text: at a capital behind a small letter or a digit, and at a
capital between another one and a small letter.
-/
def beginsWord (s : List Char) (i : Nat) : Bool :=
  s[i]?.any isCapital &&
    ((charBefore? s i).any (fun c => isSmall c || isDecimalDigit c) ||
      (charBefore? s i).any isCapital && s[i + 1]?.any isSmall)

/-- The text with an underscore before each word that begins in it. -/
def separateWords (s : List Char) : List Char :=
  s.zipIdx.flatMap fun p => if beginsWord s p.2 then ['_', p.1] else [p.1]

/-- The text with one underscore for each longest run of characters that stand in no word. -/
def joinGaps (s : List Char) : List Char :=
  (s.splitBy fun c d => isWord c == isWord d).flatMap fun run =>
    if run.all isWord then run else ['_']

/-! ### Conditions on neighbours -/

/-- A condition on a character, with the ones before and after it. -/
abbrev Boundary := Option Char → Char → Option Char → Bool

/-- The text with an underscore before each character that meets a condition; `before` is the
character in front of the text. -/
def markFrom (p : Boundary) (before : Option Char) : List Char → List Char
  | [] => []
  | c :: rest =>
    (if p before c rest.head? then ['_', c] else [c]) ++ markFrom p (some c) rest

/-- A capital between another one and a small letter. -/
def endsAcronym : Boundary := fun before c after =>
  isCapital c && before.any isCapital && after.any isSmall

/-- A capital behind a small letter or a digit. -/
def startsCapital : Boundary := fun before c _ =>
  isCapital c && before.any fun b => isSmall b || isDecimalDigit b

def Boundary.or (p q : Boundary) : Boundary := fun before c after =>
  p before c after || q before c after

theorem markFrom_cons (p : Boundary) (before : Option Char) (c : Char) (rest : List Char) :
    markFrom p before (c :: rest) =
      (if p before c rest.head? then ['_', c] else [c]) ++ markFrom p (some c) rest := rfl

theorem charBefore?_append (before s : List Char) :
    charBefore? (before ++ s) before.length = before.getLast? := by
  rcases List.eq_nil_or_concat before with rfl | ⟨front, c, rfl⟩
  · rfl
  · simp [charBefore?]

theorem beginsWord_append (before rest : List Char) (c : Char) :
    beginsWord (before ++ c :: rest) before.length =
      startsCapital.or endsAcronym before.getLast? c rest.head? := by
  have hnext : (before ++ c :: rest)[before.length + 1]? = rest.head? := by
    rw [List.getElem?_append_right (Nat.le_add_right _ 1), Nat.add_sub_cancel_left,
      List.getElem?_cons_succ, List.head?_eq_getElem?]
  rw [beginsWord, charBefore?_append, hnext, List.getElem?_append_right (Nat.le_refl _),
    Nat.sub_self, List.getElem?_cons_zero, Option.any_some, Bool.and_or_distrib_left,
    ← Bool.and_assoc]
  rfl

theorem separateWords_eq (s : List Char) :
    separateWords s = markFrom (startsCapital.or endsAcronym) none s := by
  have hrest : ∀ before s : List Char,
      ((s.zipIdx before.length).flatMap fun p =>
        if beginsWord (before ++ s) p.2 then ['_', p.1] else [p.1]) =
          markFrom (startsCapital.or endsAcronym) before.getLast? s := by
    intro before s
    induction s generalizing before with
    | nil => rfl
    | cons c rest ih =>
      have hlast := ih (before ++ [c])
      rw [List.length_append, List.length_singleton, List.append_assoc, List.singleton_append,
        List.getLast?_concat] at hlast
      rw [List.zipIdx_cons, List.flatMap_cons, markFrom_cons, hlast, beginsWord_append]
  exact hrest [] s

/-! ### Capitals -/

theorem isCapital_iff {c : Char} : isCapital c = true ↔ 0x41 ≤ c.toNat ∧ c.toNat ≤ 0x5a := by
  simp [isCapital, Char.le_def, UInt32.le_iff_toNat_le]

theorem isSmall_iff {c : Char} : isSmall c = true ↔ 0x61 ≤ c.toNat ∧ c.toNat ≤ 0x7a := by
  simp [isSmall, Char.le_def, UInt32.le_iff_toNat_le]

theorem isSmall_of_isCapital {c : Char} (h : isCapital c = true) : isSmall c = false := by
  rw [← Bool.not_eq_true, isSmall_iff]
  rw [isCapital_iff] at h
  omega

theorem not_startsCapital {b : Char} (h : isCapital b = true) (c : Char) (after : Option Char) :
    startsCapital (some b) c after = false := by
  have hzeros : ∀ z ∈ decimalZeros, z + 10 ≤ 0x41 ∨ 0x5a < z := by decide
  have hdigit : isDecimalDigit b = false := by
    rw [isDecimalDigit, decimalValue?, Option.isSome_map, ← Bool.not_eq_true, List.find?_isSome]
    rintro ⟨z, hz, hbounds⟩
    rw [Bool.and_eq_true, decide_eq_true_iff, decide_eq_true_iff] at hbounds
    rw [isCapital_iff] at h
    have := hzeros z hz
    omega
  rw [startsCapital, Option.any_some, isSmall_of_isCapital h, hdigit, Bool.or_self, Bool.and_false]

/-! ### The two passes -/

theorem endsAcronym_of_after {after : Option Char} (h : after.any isSmall = false)
    (before : Option Char) (c : Char) : endsAcronym before c after = false := by
  rw [endsAcronym, h, Bool.and_false]

theorem endsAcronym_of_before {before : Option Char} (h : before.any isCapital = false) (c : Char)
    (after : Option Char) : endsAcronym before c after = false := by
  rw [endsAcronym, h, Bool.and_false, Bool.false_and]

theorem markFrom_capitals {run s : List Char} (hrun : ∀ c ∈ run, isCapital c = true)
    (hs : s.head?.any isSmall = false) (before : Option Char) :
    markFrom endsAcronym before (run ++ s) =
      run ++ markFrom endsAcronym (run.getLast?.or before) s := by
  induction run generalizing before with
  | nil => rfl
  | cons c run ih =>
    rw [List.forall_mem_cons] at hrun
    have hnext : (run ++ s).head?.any isSmall = false := by
      cases run with
      | nil => exact hs
      | cons d run => exact isSmall_of_isCapital (hrun.2 d List.mem_cons_self)
    have hlast : run.getLast?.or (some c) = (c :: run).getLast?.or before := by
      rw [List.getLast?_cons]
      cases run.getLast? <;> rfl
    rw [List.cons_append, markFrom_cons, endsAcronym_of_after hnext, ih hrun.2, hlast]
    rfl

theorem breakAcronymsFrom_eq {run : List Char} (hrun : ∀ c ∈ run, isCapital c = true)
    (before : Option Char) (hbefore : before.any isCapital = false) (s : List Char) :
    breakAcronymsFrom run s = markFrom endsAcronym before (run.reverse ++ s) := by
  have hreverse : ∀ {run : List Char}, (∀ c ∈ run, isCapital c = true) →
      ∀ c ∈ run.reverse, isCapital c = true := fun h c hc => h c (List.mem_reverse.1 hc)
  induction s generalizing run before with
  | nil => rw [breakAcronymsFrom, markFrom_capitals (hreverse hrun) rfl, markFrom, List.append_nil]
  | cons c s ih =>
    by_cases hc : isCapital c = true
    · have hmore := ih (List.forall_mem_cons.2 ⟨hc, hrun⟩) before hbefore
      rw [List.reverse_cons, List.append_assoc, List.singleton_append] at hmore
      simp only [breakAcronymsFrom, if_pos hc, hmore]
    · have hother : isCapital c = false := Bool.eq_false_iff.2 hc
      have hbehind : (some c).any isCapital = false := hother
      have hplain : ∀ b, markFrom endsAcronym b (c :: s) = c :: breakAcronymsFrom [] s := by
        intro b
        have hnot : endsAcronym b c s.head? = false := by
          rw [endsAcronym, hother, Bool.false_and, Bool.false_and]
        rw [markFrom_cons, hnot, ih (List.forall_mem_nil _) (some c) hbehind]
        rfl
      rcases run with _ | ⟨last, _ | ⟨previous, older⟩⟩
      · simp only [breakAcronymsFrom, if_neg hc, List.reverse_nil, List.nil_append, hplain]
      · -- a single capital starts a word and ends no acronym
        simp only [breakAcronymsFrom, if_neg hc, List.reverse_singleton, List.singleton_append]
        rw [markFrom_cons, endsAcronym_of_before hbefore, hplain]
        rfl
      · have hlast : endsAcronym (some previous) last (some c) = isSmall c := by
          rw [endsAcronym, Option.any_some, Option.any_some, hrun last List.mem_cons_self,
            hrun previous (List.mem_cons_of_mem _ List.mem_cons_self), Bool.and_self, Bool.true_and]
        have hfront := markFrom_capitals (hreverse (List.forall_mem_cons.1 hrun).2)
          (s := last :: c :: s) (isSmall_of_isCapital (hrun last List.mem_cons_self)) before
        have hread : (last :: previous :: older).reverse ++ c :: s =
            (previous :: older).reverse ++ last :: c :: s := by
          rw [List.reverse_cons, List.append_assoc, List.singleton_append]
        simp only [breakAcronymsFrom, if_neg hc]
        rw [hread, hfront, List.getLast?_reverse, List.head?_cons, Option.some_or, markFrom_cons,
          List.head?_cons, hlast, hplain]
        cases isSmall c <;> simp

/-- A second pass finds nothing at an underscore, so that one pass does as well. -/
theorem markFrom_markFrom (before : Option Char) (s : List Char) :
    markFrom startsCapital before (markFrom endsAcronym before s) =
      markFrom (startsCapital.or endsAcronym) before s := by
  induction s generalizing before with
  | nil => rfl
  | cons c rest ih =>
    rw [markFrom_cons, markFrom_cons, Boundary.or]
    cases hacronym : endsAcronym before c rest.head? with
    | true =>
      have hmark : ∀ after, startsCapital before '_' after = false := fun _ => rfl
      have hbehind : ∀ after, startsCapital (some '_') c after = false := by
        intro after
        rw [startsCapital, Option.any_some]
        exact Bool.and_false _
      rw [Bool.or_true, if_pos rfl, List.cons_append, List.cons_append, List.nil_append,
        markFrom_cons, hmark, markFrom_cons, hbehind, ih]
      rfl
    | false =>
      rw [Bool.or_false, if_neg Bool.false_ne_true, List.singleton_append, markFrom_cons, ih]
      rfl

theorem breakWords_eq (s : List Char) : ∀ before : Option Char,
    (∀ c after, startsCapital before c after = false) →
      breakWords s = markFrom startsCapital before s := by
  fun_induction breakWords s with
  | case1 a b rest hsplit ih =>
    intro before hbefore
    obtain ⟨ha, hb⟩ := Bool.and_eq_true_iff.1 hsplit
    have hmark : startsCapital (some a) b rest.head? = true := by
      rw [startsCapital, hb, Option.any_some, ha, Bool.and_self]
    rw [markFrom_cons, hbefore, markFrom_cons, hmark, ih (some b) (not_startsCapital hb)]
    rfl
  | case2 a b rest hsplit ih =>
    intro before hbefore
    have hnot : startsCapital (some a) b rest.head? = false := by
      rw [startsCapital, Bool.and_comm]
      exact Bool.eq_false_iff.2 hsplit
    have hfirst : ∀ c after, startsCapital none c after = false := fun c _ => Bool.and_false _
    rw [markFrom_cons, hbefore, markFrom_cons, hnot, ih none hfirst, markFrom_cons, hfirst]
    rfl
  | case3 s hshort =>
    intro before hbefore
    rcases s with _ | ⟨a, _ | ⟨b, rest⟩⟩
    · rfl
    · rw [markFrom_cons, hbefore]
      rfl
    · exact (hshort a b rest rfl).elim

theorem breakWords_breakAcronyms (s : List Char) :
    breakWords (breakAcronyms s) = separateWords s := by
  rw [breakAcronyms, breakAcronymsFrom_eq (List.forall_mem_nil _) none rfl,
    breakWords_eq _ none fun c _ => Bool.and_false _, List.reverse_nil, List.nil_append,
    markFrom_markFrom, separateWords_eq]

/-! ### Gaps -/

theorem joinWordsFrom_word {run : List Char} (hrun : ∀ c ∈ run, isWord c = true) (s : List Char) :
    joinWordsFrom false (run ++ s) = run ++ joinWordsFrom false s := by
  induction run with
  | nil => rfl
  | cons c run ih =>
    rw [List.forall_mem_cons] at hrun
    rw [List.cons_append, joinWordsFrom, if_pos hrun.1, ih hrun.2, List.cons_append]

theorem joinWordsFrom_gap {run : List Char} (hrun : ∀ c ∈ run, isWord c = false) (s : List Char) :
    joinWordsFrom true (run ++ s) = joinWordsFrom true s := by
  induction run with
  | nil => rfl
  | cons c run ih =>
    rw [List.forall_mem_cons] at hrun
    rw [List.cons_append, joinWordsFrom, if_neg (Bool.eq_false_iff.1 hrun.1), if_pos rfl,
      ih hrun.2]

theorem joinWordsFrom_of_head {s : List Char} (h : ∀ c ∈ s.head?, isWord c = true) :
    joinWordsFrom true s = joinWordsFrom false s := by
  cases s with
  | nil => rfl
  | cons c s => rw [joinWordsFrom, joinWordsFrom, if_pos (h c rfl), if_pos (h c rfl)]

theorem isWord_of_isChain {c : Char} {run : List Char}
    (h : (c :: run).IsChain fun c d => (isWord c == isWord d) = true) :
    ∀ d ∈ c :: run, isWord d = isWord c := by
  induction run generalizing c with
  | nil => exact List.forall_mem_singleton.2 rfl
  | cons d run ih =>
    rw [List.isChain_cons_cons, beq_iff_eq] at h
    rw [List.forall_mem_cons]
    exact ⟨rfl, fun e he => (ih h.2 e he).trans h.1.symm⟩

theorem joinWordsFrom_flatten {runs : List (List Char)} (hne : [] ∉ runs)
    (hruns : ∀ run ∈ runs, run.IsChain fun c d => (isWord c == isWord d) = true)
    (hbetween : runs.IsChain fun run next =>
      ∃ hr hn, (isWord (run.getLast hr) == isWord (next.head hn)) = false) :
    joinWordsFrom false runs.flatten =
      runs.flatMap fun run => if run.all isWord then run else ['_'] := by
  induction runs with
  | nil => rfl
  | cons run runs ih =>
    rw [List.mem_cons, not_or] at hne
    rw [List.forall_mem_cons] at hruns
    rw [List.isChain_cons] at hbetween
    rw [List.flatten_cons, List.flatMap_cons, ← ih hne.2 hruns.2 hbetween.2]
    obtain ⟨c, run, rfl⟩ := List.exists_cons_of_ne_nil (Ne.symm hne.1)
    have halike := isWord_of_isChain hruns.1
    cases hc : isWord c with
    | true =>
      have hword : ∀ d ∈ c :: run, isWord d = true := fun d hd => (halike d hd).trans hc
      rw [if_pos (List.all_eq_true.2 hword), joinWordsFrom_word hword]
    | false =>
      have hother : ∀ d ∈ c :: run, isWord d = false := fun d hd => (halike d hd).trans hc
      have hall : (c :: run).all isWord = false := by rw [List.all_cons, hc, Bool.false_and]
      have hnext : ∀ d ∈ runs.flatten.head?, isWord d = true := by
        intro d hd
        cases runs with
        | nil => cases hd
        | cons next runs =>
          obtain ⟨hr, hn, hdiffer⟩ := hbetween.1 next rfl
          obtain ⟨e, next, rfl⟩ := List.exists_cons_of_ne_nil hn
          obtain rfl : e = d := Option.some.inj hd
          rw [hother _ (List.getLast_mem hr), List.head_cons, beq_eq_false_iff_ne] at hdiffer
          exact Bool.ne_false_iff.1 hdiffer.symm
      rw [if_neg (Bool.eq_false_iff.1 hall), List.cons_append, joinWordsFrom,
        if_neg (Bool.eq_false_iff.1 hc), if_neg Bool.false_ne_true,
        joinWordsFrom_gap (List.forall_mem_cons.1 hother).2, joinWordsFrom_of_head hnext]
      rfl

theorem joinWordsFrom_eq (s : List Char) : joinWordsFrom false s = joinGaps s := by
  have h := joinWordsFrom_flatten (List.nil_notMem_splitBy (fun c d => isWord c == isWord d) s)
    (fun run hrun => List.isChain_of_mem_splitBy hrun) (List.isChain_getLast_head_splitBy
      (fun c d => isWord c == isWord d) s)
  rwa [List.flatten_splitBy] at h

theorem snakeCase_eq (name : String) :
    snakeCase name = String.ofList (lower (joinGaps (separateWords name.toList))) := by
  rw [snakeCase, breakWords_breakAcronyms, joinWordsFrom_eq]

/-! ### Names in ASCII -/

def isSnake (c : Char) : Bool := isSmall c || c.isDigit || c == '_'

theorem lt_of_isSnake {c : Char} (h : isSnake c = true) : c.toNat < 128 := by
  rw [isSnake, Bool.or_eq_true, Bool.or_eq_true, isSmall_iff, beq_iff_eq] at h
  rcases h with (h | h) | rfl
  · omega
  · simp only [Char.isDigit, Bool.and_eq_true, decide_eq_true_iff, ge_iff_le,
      UInt32.le_iff_toNat_le] at h
    have hnine : c.toNat ≤ 57 := h.2
    omega
  · decide

theorem isSnake_lowerChar {c : Char} (hc : c.toNat < 128) (hword : isWord c = true) :
    isSnake (lowerChar c) = true := by
  have hall : ∀ n < 128, isWord (Char.ofNat n) = true →
      isSnake (lowerChar (Char.ofNat n)) = true := by
    decide +kernel
  have hsnake := hall c.toNat hc
  rw [Char.ofNat_toNat] at hsnake
  exact hsnake hword

theorem isSnake_spec {c : Char} (h : isSnake c = true) :
    isWord c = true ∧ isCapital c = false ∧ lowerChar c = c := by
  have hall : ∀ n < 128, isSnake (Char.ofNat n) = true → isWord (Char.ofNat n) = true ∧
      isCapital (Char.ofNat n) = false ∧ lowerChar (Char.ofNat n) = Char.ofNat n := by
    decide +kernel
  have hspec := hall c.toNat (lt_of_isSnake h)
  rw [Char.ofNat_toNat] at hspec
  exact hspec h

theorem mem_of_mem_separateWords {c : Char} {s : List Char} (h : c ∈ separateWords s) :
    c = '_' ∨ c ∈ s := by
  obtain ⟨p, hp, hc⟩ := List.mem_flatMap.1 h
  have hmem : p.1 ∈ s := List.fst_mem_of_mem_zipIdx hp
  split at hc
  · rw [List.mem_cons, List.mem_singleton] at hc
    rcases hc with rfl | rfl
    · exact .inl rfl
    · exact .inr hmem
  · obtain rfl := List.mem_singleton.1 hc
    exact .inr hmem

theorem mem_of_mem_joinWordsFrom {c : Char} {gap : Bool} {s : List Char}
    (h : c ∈ joinWordsFrom gap s) : c = '_' ∨ c ∈ s := by
  induction s generalizing gap with
  | nil => cases h
  | cons d s ih =>
    have hrest : ∀ {gap : Bool}, c ∈ joinWordsFrom gap s → c = '_' ∨ c ∈ d :: s := fun h =>
      (ih h).imp id (List.mem_cons_of_mem d)
    rw [joinWordsFrom] at h
    split at h
    · rcases List.mem_cons.1 h with rfl | h
      · exact .inr List.mem_cons_self
      · exact hrest h
    · split at h
      · exact hrest h
      · rcases List.mem_cons.1 h with rfl | h
        · exact .inl rfl
        · exact hrest h

theorem lowerFrom_ascii {s : List Char} (hs : ∀ c ∈ s, c.toNat < 128) (seen : List Char) :
    lowerFrom seen s = s.map lowerChar := by
  induction s generalizing seen with
  | nil => rfl
  | cons c s ih =>
    rw [List.forall_mem_cons] at hs
    have hne : ∀ d : Char, 128 ≤ d.toNat → (c == d) = false := by
      intro d hd
      rw [beq_eq_false_iff_ne]
      rintro rfl
      omega
    rw [lowerFrom, hne '\u0130' (by decide), hne '\u03a3' (by decide), ih hs.2]
    rfl

theorem isSnake_of_mem_snakeCase {name : String} (hname : ∀ c ∈ name.toList, c.toNat < 128) :
    ∀ c ∈ (snakeCase name).toList, isSnake c = true := by
  have hascii : ∀ c ∈ joinWordsFrom false (separateWords name.toList), c.toNat < 128 := by
    intro c hc
    rcases mem_of_mem_joinWordsFrom hc with rfl | hc
    · decide
    · rcases mem_of_mem_separateWords hc with rfl | hc
      · decide
      · exact hname c hc
  intro c hc
  rw [snakeCase, String.toList_ofList, breakWords_breakAcronyms, lower, lowerFrom_ascii hascii,
    List.mem_map] at hc
  obtain ⟨d, hd, rfl⟩ := hc
  exact isSnake_lowerChar (hascii d hd) (isWord_of_mem_joinWordsFrom hd)

theorem markFrom_of_not_capital {s : List Char} (h : ∀ c ∈ s, isCapital c = false)
    (before : Option Char) : markFrom (startsCapital.or endsAcronym) before s = s := by
  induction s generalizing before with
  | nil => rfl
  | cons c s ih =>
    rw [List.forall_mem_cons] at h
    have hnot : startsCapital.or endsAcronym before c s.head? = false := by
      rw [Boundary.or, startsCapital, endsAcronym, h.1, Bool.false_and, Bool.false_and,
        Bool.false_and, Bool.or_false]
    rw [markFrom_cons, hnot, ih h.2]
    rfl

theorem snakeCase_of_isSnake {name : String} (h : ∀ c ∈ name.toList, isSnake c = true) :
    snakeCase name = name := by
  have hcapital : ∀ c ∈ name.toList, isCapital c = false := fun c hc => (isSnake_spec (h c hc)).2.1
  have hword : ∀ c ∈ name.toList, isWord c = true := fun c hc => (isSnake_spec (h c hc)).1
  have hgaps : joinWordsFrom false name.toList = name.toList := by
    have happend := joinWordsFrom_word hword []
    rwa [List.append_nil, joinWordsFrom, List.append_nil] at happend
  have hlower : name.toList.map lowerChar = name.toList :=
    (List.map_congr_left fun c hc => (isSnake_spec (h c hc)).2.2).trans (List.map_id' _)
  rw [snakeCase, breakWords_breakAcronyms, separateWords_eq, markFrom_of_not_capital hcapital,
    hgaps, lower, lowerFrom_ascii (fun c hc => lt_of_isSnake (h c hc)), hlower,
    String.ofList_toList]

end Grounding.Text

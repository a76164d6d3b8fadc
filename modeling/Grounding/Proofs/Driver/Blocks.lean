import Grounding.Proofs.Driver.Lexing
import Mathlib.Data.List.Chain

/-!
# Blocks

What is left of a line without its comment, and with a token for each literal, is a statement or the
header of a block, which ends in a colon. The host language reads blocks off the indentation. So a
header must be followed by a line one level deeper, only a header may be, and a line that is less
deep must come back to a block that is still open.
-/

namespace Grounding.Lexing

open Layout

namespace Token

def isBlank (t : Token) : Bool := t == code ' '

def isComment : Token → Bool
  | comment _ => true
  | code _ | literal => false

def endsLine : Token → Bool
  | code c => isLineEnd c
  | comment _ | literal => false

/-- Whether a token belongs to a statement or a header. -/
def isVisible (t : Token) : Bool := !t.isBlank && !t.isComment

end Token

structure CodeLine where
  /-- The number of blanks in front. -/
  indent : Nat
  /-- Whether it is a header. -/
  opens : Bool
deriving DecidableEq, Repr

/-- The statement or the header on a line. A line that holds nothing but a comment has none. -/
def codeLine? (line : List Token) : Option CodeLine :=
  (line.filter Token.isVisible).getLast?.map fun last =>
    ⟨(line.takeWhile Token.isBlank).length, last == .code ':'⟩

/-- The lines with statements and headers. A literal that runs over several lines is on one. -/
def codeLines (tokens : List Token) : List CodeLine :=
  (tokens.splitOnP Token.endsLine).filterMap codeLine?

example : codeLines (outside "if x:  # why\n    \x22\x22\x22a\nb\x22\x22\x22\n\n# c\ny = 1\n") =
    [⟨0, true⟩, ⟨4, false⟩, ⟨0, false⟩] := by decide

/-- The lines are divided into blocks as the host language demands. -/
structure BlockStructure (lines : List CodeLine) : Prop where
  outermost : ∀ l ∈ lines.head?, l.indent = 0
  /-- A header is followed by a line one level deeper. -/
  header_followed : ∀ (i : Nat) (l : CodeLine), lines[i]? = some l → l.opens = true →
    ∃ l' : CodeLine, lines[i + 1]? = some l' ∧ l'.indent = l.indent + unit.length
  /-- A deeper line follows a header. -/
  opens_of_deeper : ∀ (i : Nat) (l l' : CodeLine), lines[i]? = some l → lines[i + 1]? = some l' →
    l.indent < l'.indent → l.opens = true
  /-- A line that is less deep is at the level of an earlier header, and all lines in between are in
  the block of that header. -/
  returns : ∀ (i : Nat) (l l' : CodeLine), lines[i]? = some l → lines[i + 1]? = some l' →
    l'.indent < l.indent → ∃ (j : Nat) (header : CodeLine), j < i ∧ lines[j]? = some header ∧
      header.opens = true ∧ header.indent = l'.indent ∧
      ∀ (k : Nat) (between : CodeLine), j < k → k ≤ i → lines[k]? = some between →
        l'.indent < between.indent

/-! ### Pieces of code -/

def Follows (l l' : CodeLine) : Prop :=
  (l.opens = true → l'.indent = l.indent + unit.length) ∧ (l.indent < l'.indent → l.opens = true)

/-- The lines of a piece of code at a level: it begins at this level and stays within it. -/
structure Nested (level : Nat) (lines : List CodeLine) : Prop where
  head : ∀ l ∈ lines.head?, l.indent = unit.length * level
  within : ∀ l ∈ lines, ∃ depth, l.indent = unit.length * depth ∧ level ≤ depth
  chain : lines.IsChain Follows
  last : ∀ l ∈ lines.getLast?, l.opens = false

variable {level : Nat} {xs ys lines : List CodeLine}

namespace Nested

theorem nil : Nested level [] := ⟨nofun, nofun, .nil, nofun⟩

theorem statement : Nested level [⟨unit.length * level, false⟩] where
  head := by rintro _ ⟨⟩; rfl
  within := by
    simp only [List.mem_singleton, forall_eq]
    exact ⟨level, rfl, le_rfl⟩
  chain := .singleton _
  last := by rintro _ ⟨⟩; rfl

theorem append (hx : Nested level xs) (hy : Nested level ys) : Nested level (xs ++ ys) where
  head := by
    cases xs with
    | nil => exact hy.head
    | cons x xs => exact hx.head
  within := fun l hl => (List.mem_append.1 hl).elim (hx.within l) (hy.within l)
  chain := by
    refine List.isChain_append.2 ⟨hx.chain, hy.chain, fun x hlast y hhead => ⟨fun h => ?_, ?_⟩⟩
    · exact Bool.noConfusion ((hx.last x hlast).symm.trans h)
    · obtain ⟨depth, hdepth, hle⟩ := hx.within x (List.mem_of_getLast? hlast)
      rw [hdepth, hy.head y hhead]
      exact fun h => absurd (Nat.mul_le_mul_left _ hle) (Nat.not_le.2 h)
  last := by
    rw [List.getLast?_append]
    cases hlast : ys.getLast? with
    | none => exact hx.last
    | some y =>
      rintro _ ⟨⟩
      exact hy.last y hlast

theorem block (hbody : Nested (level + 1) lines) (hne : lines ≠ []) :
    Nested level (⟨unit.length * level, true⟩ :: lines) where
  head := by rintro _ ⟨⟩; rfl
  within := by
    rw [List.forall_mem_cons]
    refine ⟨⟨level, rfl, le_rfl⟩, fun l hl => ?_⟩
    obtain ⟨depth, hdepth, hle⟩ := hbody.within l hl
    exact ⟨depth, hdepth, Nat.le_of_succ_le hle⟩
  chain := List.isChain_cons.2 ⟨fun y hy => ⟨fun _ => hbody.head y hy, fun _ => rfl⟩, hbody.chain⟩
  last := by
    rw [List.getLast?_cons]
    cases hlast : lines.getLast? with
    | none => exact absurd (List.getLast?_eq_none_iff.1 hlast) hne
    | some y =>
      rintro _ ⟨⟩
      exact hbody.last y hlast

/-! ### A whole driver -/

theorem follows (h : Nested level lines) {i : Nat} {l l' : CodeLine} (hl : lines[i]? = some l)
    (hl' : lines[i + 1]? = some l') : Follows l l' := by
  obtain ⟨hi, rfl⟩ := List.getElem?_eq_some_iff.1 hl
  obtain ⟨hi', rfl⟩ := List.getElem?_eq_some_iff.1 hl'
  exact List.isChain_iff_getElem.1 h.chain i hi'

theorem exists_header (h : Nested 0 lines) (depth : Nat) : ∀ (i : Nat) (l : CodeLine),
    lines[i]? = some l → unit.length * depth < l.indent →
    ∃ (j : Nat) (header : CodeLine), j < i ∧ lines[j]? = some header ∧ header.opens = true ∧
      header.indent = unit.length * depth ∧
      ∀ (k : Nat) (between : CodeLine), j < k → k ≤ i → lines[k]? = some between →
        unit.length * depth < between.indent := by
  intro i
  induction i with
  | zero =>
    intro l hl hlt
    rw [h.head l (by rw [Option.mem_def, ← hl, List.head?_eq_getElem?])] at hlt
    exact absurd hlt (Nat.not_lt_zero _)
  | succ i ih =>
    intro l hl hlt
    obtain ⟨hi, -⟩ := List.getElem?_eq_some_iff.1 hl
    have hm : lines[i]? = some lines[i] := List.getElem?_eq_getElem (Nat.lt_of_succ_lt hi)
    generalize lines[i] = m at hm
    by_cases hdeep : unit.length * depth < m.indent
    · obtain ⟨j, header, hj, hheader, hopens, hindent, hbetween⟩ := ih m hm hdeep
      refine ⟨j, header, Nat.lt_succ_of_lt hj, hheader, hopens, hindent, fun k b hjk hki hb => ?_⟩
      obtain hki | rfl := Nat.lt_or_eq_of_le hki
      · exact hbetween k b hjk (Nat.le_of_lt_succ hki) hb
      · obtain rfl := Option.some.inj (hl.symm.trans hb)
        exact hlt
    · -- The line before is the header: one step leads from at most this level to beyond it.
      have hopens := (h.follows hm hl).2 (Nat.lt_of_le_of_lt (Nat.not_lt.1 hdeep) hlt)
      have hindent := (h.follows hm hl).1 hopens
      obtain ⟨depth', hdepth', -⟩ := h.within m (List.mem_of_getElem? hm)
      have hsame : depth' = depth := by
        rw [hindent, hdepth', show unit.length = 4 from rfl] at hlt
        rw [hdepth', show unit.length = 4 from rfl] at hdeep
        omega
      refine ⟨i, m, Nat.lt_succ_self i, hm, hopens, by rw [hdepth', hsame], ?_⟩
      intro k b hik hki hb
      obtain rfl : k = i + 1 := by omega
      obtain rfl := Option.some.inj (hl.symm.trans hb)
      exact hlt

/-- The lines of a piece at the outermost level are divided into blocks. -/
theorem blockStructure (h : Nested 0 lines) : BlockStructure lines where
  outermost := h.head
  header_followed := fun i l hl hopens => by
    obtain ⟨hi, -⟩ := List.getElem?_eq_some_iff.1 hl
    by_cases hlast : i + 1 < lines.length
    · have hl' : lines[i + 1]? = some lines[i + 1] := List.getElem?_eq_getElem hlast
      exact ⟨_, hl', (h.follows hl hl').1 hopens⟩
    · have hend : lines.getLast? = some l := by
        rw [List.getLast?_eq_getElem?, ← hl]
        congr 1
        omega
      exact Bool.noConfusion ((h.last l hend).symm.trans hopens)
  opens_of_deeper := fun i l l' hl hl' hlt => (h.follows hl hl').2 hlt
  returns := fun i l l' hl hl' hlt => by
    obtain ⟨depth, hdepth, -⟩ := h.within l' (List.mem_of_getElem? hl')
    rw [hdepth] at hlt ⊢
    exact h.exists_header depth i l hl hlt

end Nested

/-! ### Lines -/

def joinLines (ls : List (List Token)) : List Token := ls.flatMap (· ++ [.code '\n'])

theorem codeLines_joinLines {ls : List (List Token)}
    (h : ∀ line ∈ ls, ∀ t ∈ line, t.endsLine = false) :
    codeLines (joinLines ls) = ls.filterMap codeLine? := by
  rw [codeLines]
  induction ls with
  | nil => rfl
  | cons line ls ih =>
    rw [List.forall_mem_cons] at h
    rw [joinLines, List.flatMap_cons, List.append_assoc, List.singleton_append,
      List.splitOnP_append_cons_of_forall_mem h.1 _ rfl, List.filterMap_cons, List.filterMap_cons]
    have hrest := ih h.2
    rw [joinLines] at hrest
    rw [hrest]

theorem codeLine?_indented {line : List Token} (h : ∀ t ∈ line.head?, t.isBlank = false)
    (depth : Nat) : codeLine? (blanks depth ++ line) =
      (line.filter Token.isVisible).getLast?.map fun last =>
        ⟨unit.length * depth, last == .code ':'⟩ := by
  have hblanks : ∀ t ∈ blanks depth, t = .code ' ' := fun t ht => (List.mem_replicate.1 ht).2
  have hfilter : (blanks depth).filter Token.isVisible = [] :=
    List.filter_eq_nil_iff.2 fun t ht => by rw [hblanks t ht]; decide
  have hline : line.takeWhile Token.isBlank = [] := by
    cases line with
    | nil => rfl
    | cons t line => exact List.takeWhile_cons_of_neg (by rw [h t rfl]; exact nofun)
  have htake : (blanks depth ++ line).takeWhile Token.isBlank = blanks depth := by
    rw [List.takeWhile_append_of_pos fun t ht => by rw [hblanks t ht]; rfl, hline, List.append_nil]
  rw [codeLine?, List.filter_append, hfilter, List.nil_append, htake, blanks, List.length_replicate]

end Grounding.Lexing

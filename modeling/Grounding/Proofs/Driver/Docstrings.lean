import Grounding.Proofs.Driver.Unquoting
import Mathlib.Data.List.TakeWhile
import Mathlib.Tactic.IntervalCases

/-!
# What docstrings stand for

A docstring is one literal on lines of its own. It stands for its single text if it is on one line,
and otherwise for its texts line by line, between the line ends and the indentation around them.

There is one exception. On one line, a double quote at the end is escaped once more, although three
of them in a row are escaped already. So where the double quotes at the end of the text come in
whole groups of three, a backslash is escaped in place of the last quote, and that stands behind the
literal.
-/

namespace Grounding.Lexing

open Layout Text

variable {s t u v after : List Char} {c : Char}

/-! ### Escaped texts -/

theorem prefix_of_prefix_docText (ht : '\\' ∉ t) (h : t <+: docText s) : t <+: s := by
  have hempty : ∀ {t rest : List Char}, '\\' ∉ t → t <+: '\\' :: rest → t = [] := by
    intro t rest ht hprefix
    rcases List.prefix_cons_iff.1 hprefix with rfl | ⟨t', rfl, -⟩
    · rfl
    · exact absurd List.mem_cons_self ht
  induction s using docText_induction generalizing t with
  | nil => exact h
  | marks s _ =>
    rw [hempty ht h]
    exact List.nil_prefix
  | slash s _ =>
    rw [hempty ht h]
    exact List.nil_prefix
  | plain c s hslash hmarks ih =>
    rw [docText_cons hslash hmarks] at h
    rcases List.prefix_cons_iff.1 h with rfl | ⟨t', rfl, hprefix⟩
    · exact List.nil_prefix
    · exact List.cons_prefix_cons.2 ⟨rfl, ih (fun hmem => ht (List.mem_cons_of_mem _ hmem)) hprefix⟩

theorem not_prefix_docText (s : List Char) : ¬ docMarks <+: docText s := by
  intro h
  obtain ⟨rest, rfl⟩ := prefix_of_prefix_docText (by decide) h
  rw [docText_marks] at h
  exact absurd (List.cons_prefix_cons.1 h).1 (by decide)

/-- Three marks that two texts begin with are all in the first one, unless it ends in a mark and the
second one begins with one. -/
theorem prefix_of_prefix_append (hne : s ≠ []) (hend : s.getLast? ≠ some '"' ∨ t.head? ≠ some '"')
    (h : docMarks <+: s ++ t) : docMarks <+: s := by
  rcases List.prefix_or_prefix_of_prefix h (List.prefix_append s t) with hs | ⟨u, hu⟩
  · exact hs
  · have hall : ∀ x ∈ s ++ u, x = '"' := by
      rw [hu]
      exact fun x hx => List.eq_of_mem_replicate (n := 3) hx
    cases u with
    | nil =>
      have hs : docMarks = s := by rw [← hu, List.append_nil]
      exact hs ▸ List.prefix_rfl
    | cons d u =>
      obtain ⟨rest, rfl⟩ : d :: u <+: t := by rwa [← hu, List.prefix_append_right_inj] at h
      rcases hend with hend | hend
      · have hlast := hall _ (List.mem_append_left _ (List.getLast_mem hne))
        exact absurd (by rw [List.getLast?_eq_some_getLast hne, hlast]) hend
      · exact absurd (congrArg some (hall d (by simp))) hend

theorem getLast?_ne_of_append {c : Char} (h : (s ++ t).getLast? ≠ some c) :
    t.getLast? ≠ some c := by
  intro ht
  rw [List.getLast?_append, ht] at h
  exact h rfl

theorem docText_append (hend : s.getLast? ≠ some '"') (t : List Char) :
    docText (s ++ t) = docText s ++ docText t := by
  induction s using docText_induction with
  | nil => rfl
  | marks s ih =>
    rw [List.append_assoc, docText_marks, docText_marks, ih (getLast?_ne_of_append hend),
      List.append_assoc]
  | slash s ih =>
    have hrest : ('\\' :: s).getLast? ≠ some '"' → s.getLast? ≠ some '"' :=
      getLast?_ne_of_append (s := ['\\'])
    rw [List.cons_append, docText_slash, docText_slash, ih (hrest hend)]
    rfl
  | plain c s hslash hmarks ih =>
    have hmarks' : ¬ docMarks <+: c :: (s ++ t) := fun h =>
      hmarks (prefix_of_prefix_append (List.cons_ne_nil _ _) (.inl hend) h)
    have hrest : (c :: s).getLast? ≠ some '"' → s.getLast? ≠ some '"' :=
      getLast?_ne_of_append (s := [c])
    rw [List.cons_append, docText_cons hslash hmarks', docText_cons hslash hmarks, ih (hrest hend)]
    rfl

/-! ### Marks at the end -/

/-- The number of double quotes at the end of a text. -/
def closingMarks (s : List Char) : Nat := (s.reverse.takeWhile (· == '"')).length

theorem exists_eq_append_replicate (s : List Char) :
    ∃ u, u.getLast? ≠ some '"' ∧ s = u ++ List.replicate (closingMarks s) '"' := by
  refine ⟨(s.reverse.dropWhile (· == '"')).reverse, ?_, ?_⟩
  · rw [List.getLast?_reverse]
    intro hhead
    have hnot := List.head?_dropWhile_not (· == '"') s.reverse
    rw [hhead] at hnot
    exact Bool.noConfusion hnot
  · have hmarks : s.reverse.takeWhile (· == '"') = List.replicate (closingMarks s) '"' := by
      refine List.eq_replicate_iff.2 ⟨rfl, fun c hc => ?_⟩
      have hmark := List.mem_takeWhile_imp hc
      exact beq_iff_eq.1 hmark
    rw [← List.reverse_inj, List.reverse_append, List.reverse_reverse, List.reverse_replicate,
      ← hmarks, List.takeWhile_append_dropWhile]

theorem docText_replicate {k j : Nat} (hj : j < 3) :
    docText (List.replicate (3 * k + j) '"') =
      (List.replicate k escapedMarks).flatten ++ List.replicate j '"' := by
  induction k with
  | zero =>
    rw [Nat.mul_zero, Nat.zero_add]
    interval_cases j <;> rfl
  | succ k ih =>
    have hgroup : List.replicate (3 * (k + 1) + j) '"' =
        docMarks ++ List.replicate (3 * k + j) '"' := by
      rw [show 3 * (k + 1) + j = 3 + (3 * k + j) by omega, List.replicate_add]
      rfl
    rw [hgroup, docText_marks, ih, List.replicate_succ, List.flatten_cons, List.append_assoc]

theorem docText_concat_mark {u : List Char} (hu : u.getLast? ≠ some '"') {n : Nat}
    (hn : (n + 1) % 3 ≠ 0) : docText (u ++ List.replicate (n + 1) '"') =
      docText (u ++ List.replicate n '"') ++ ['"'] := by
  obtain ⟨k, j, hj, rfl⟩ : ∃ k j, j < 2 ∧ n = 3 * k + j := ⟨n / 3, n % 3, by omega, by omega⟩
  rw [docText_append hu, docText_append hu, Nat.add_assoc, docText_replicate (by omega),
    docText_replicate (by omega), List.replicate_succ']
  simp only [List.append_assoc]

theorem docText_concat_marks {u : List Char} (hu : u.getLast? ≠ some '"') {n : Nat}
    (hn : n % 3 = 0) : docText (u ++ List.replicate (n + 3) '"') =
      docText (u ++ List.replicate n '"') ++ escapedMarks := by
  obtain ⟨k, rfl⟩ : ∃ k, n = 3 * k := ⟨n / 3, by omega⟩
  have hgroups : ∀ k, docText (List.replicate (3 * k) '"') =
      (List.replicate k escapedMarks).flatten := fun k => by
    have h := docText_replicate (k := k) (j := 0) (by decide)
    rwa [Nat.add_zero, List.replicate_zero, List.append_nil] at h
  rw [docText_append hu, docText_append hu, ← Nat.mul_succ, hgroups, hgroups,
    List.replicate_succ', List.flatten_append, List.append_assoc]
  simp only [List.flatten_cons, List.flatten_nil, List.append_nil]

/-! ### Reading back -/

/-- A reader of source code sees the text as it is: there is no null character in it, and no
carriage return, which would be read as a line end. -/
def IsUnaltered (s : List Char) : Prop := ∀ c ∈ s, c ≠ '\x00' ∧ c ≠ '\r'

theorem isUnaltered_iff : IsUnaltered s ↔ '\x00' ∉ s ∧ '\r' ∉ s := by
  constructor
  · exact fun h => ⟨fun hc => (h _ hc).1 rfl, fun hc => (h _ hc).2 rfl⟩
  · rintro ⟨hnull, hreturn⟩ c hc
    exact ⟨ne_of_mem_of_not_mem hc hnull, ne_of_mem_of_not_mem hc hreturn⟩

instance (s : List Char) : Decidable (IsUnaltered s) := decidable_of_iff _ isUnaltered_iff.symm

theorem readBody?_mark (h : readBody? docMarks 0 t = some (v, after)) :
    readBody? docMarks 0 ('\\' :: '"' :: t) = some ('"' :: v, after) :=
  readBody?_escape (e := ['"']) nofun docMarks_ne_nil rfl h

theorem readBody?_slash (h : readBody? docMarks 0 t = some (v, after)) :
    readBody? docMarks 0 ('\\' :: '\\' :: t) = some ('\\' :: v, after) :=
  readBody?_escape (e := ['\\']) nofun docMarks_ne_nil rfl h

theorem head?_ne_mark (hc : c ≠ '"') : (c :: s).head? ≠ some '"' :=
  fun h => hc (Option.some.inj h)

theorem readBody?_docText (hs : IsUnaltered s) (hend : s.getLast? ≠ some '"' ∨ t.head? ≠ some '"')
    (h : readBody? docMarks 0 t = some (v, after)) :
    readBody? docMarks 0 (docText s ++ t) = some (s ++ v, after) := by
  induction s using docText_induction with
  | nil => exact h
  | marks s ih =>
    have hrest := ih (fun c hc => hs c (List.mem_append_right _ hc))
      (hend.imp_left getLast?_ne_of_append)
    rw [docText_marks]
    exact readBody?_mark (readBody?_mark (readBody?_mark hrest))
  | slash s ih =>
    have hrest := ih (fun c hc => hs c (List.mem_cons_of_mem _ hc))
      (hend.imp_left (getLast?_ne_of_append (s := ['\\'])))
    rw [docText_slash]
    exact readBody?_slash hrest
  | plain c s hslash hmarks ih =>
    have hrest := ih (fun c hc => hs c (List.mem_cons_of_mem _ hc))
      (hend.imp_left (getLast?_ne_of_append (s := [c])))
    have htext : docText (c :: s) = c :: docText s := docText_cons hslash hmarks
    have hopen : ¬ docMarks <+: c :: (docText s ++ t) := by
      intro hprefix
      rw [← getLast?_docText, htext] at hend
      refine not_prefix_docText (c :: s) ?_
      rw [htext]
      exact prefix_of_prefix_append (List.cons_ne_nil _ _) hend hprefix
    have hc : standsForItself docMarks c = true := by
      obtain ⟨hnul, hreturn⟩ := hs c List.mem_cons_self
      simp [standsForItself, docMarks, hslash, hnul, hreturn]
    rw [htext]
    exact readBody?_plain hopen hc hrest

theorem readBody?_of_ne {c : Char} (hmark : c ≠ '"') (hc : standsForItself docMarks c = true)
    (h : readBody? docMarks 0 t = some (v, after)) :
    readBody? docMarks 0 (c :: t) = some (c :: v, after) :=
  readBody?_plain (fun hprefix => hmark (List.cons_prefix_cons.1 hprefix).1.symm) hc h

theorem readBody?_blanks (n : Nat) (h : readBody? docMarks 0 t = some (v, after)) :
    readBody? docMarks 0 (List.replicate n ' ' ++ t) = some (List.replicate n ' ' ++ v, after) := by
  induction n with
  | zero => exact h
  | succ n ih => exact readBody?_of_ne (by decide) (by decide) ih

theorem readBody?_line (depth : Nat) {s : String} (hs : IsUnaltered s.toList)
    (h : readBody? docMarks 0 t = some (v, after)) :
    readBody? docMarks 0 ((line depth (String.ofList (docText s.toList))).toList ++ t) =
      some ((line depth s).toList ++ v, after) := by
  have hend : readBody? docMarks 0 ('\n' :: t) = some ('\n' :: v, after) :=
    readBody?_of_ne (by decide) (by decide) h
  by_cases hempty : s = ""
  · have hescaped : String.ofList (docText "".toList) = "" := rfl
    rw [hempty, hescaped, line_empty]
    exact hend
  · have hescaped : String.ofList (docText s.toList) ≠ "" := by
      rw [ne_eq, String.ofList_eq_empty_iff, ← List.getLast?_eq_none_iff, getLast?_docText,
        List.getLast?_eq_none_iff, String.toList_eq_nil_iff]
      exact hempty
    rw [toList_line hescaped, toList_line hempty, String.toList_ofList]
    simp only [List.append_assoc]
    exact readBody?_blanks _ (readBody?_docText hs (.inr (head?_ne_mark (by decide))) hend)

theorem readBody?_lines (depth : Nat) {texts : List String} (hs : ∀ s ∈ texts, IsUnaltered s.toList)
    (h : readBody? docMarks 0 t = some (v, after)) :
    readBody? docMarks 0 ((String.join (texts.map fun s =>
        line depth (String.ofList (docText s.toList)))).toList ++ t) =
      some ((String.join (texts.map (line depth))).toList ++ v, after) := by
  induction texts with
  | nil => exact h
  | cons s texts ih =>
    rw [List.forall_mem_cons] at hs
    simp only [List.map_cons, String.join_cons, String.toList_append, List.append_assoc]
    exact readBody?_line depth hs.1 (ih hs.2)

/-! ### Docstrings -/

/-- What a docstring is to stand for. -/
def docValue (depth : Nat) (texts : List String) : List Char :=
  match onOneLine? depth texts with
  | some s => s.toList
  | none => '\n' :: (String.join (texts.map (line depth)) ++ indentation depth).toList

/-- The double quotes at the end of a text come in whole groups of three. -/
def EndsInGroups (s : List Char) : Prop := 0 < closingMarks s ∧ closingMarks s % 3 = 0

theorem escapeLastQuote_concat (s : List Char) :
    escapeLastQuote (s ++ ['"']) = s ++ ['\\', '"'] := by
  have hlast : ((s ++ ['"']).getLast? == some '"') = true := by
    rw [List.getLast?_concat]
    exact beq_self_eq_true _
  rw [escapeLastQuote, if_pos hlast, List.dropLast_concat]

theorem readBody?_escapeLastQuote (hs : IsUnaltered s) (hgroups : ¬ EndsInGroups s) :
    readBody? docMarks 0 (escapeLastQuote (docText s) ++ (docMarks ++ after)) =
      some (s, after) := by
  have hclose := readBody?_close docMarks_ne_nil after
  obtain ⟨u, hu, hsplit⟩ := exists_eq_append_replicate s
  rw [EndsInGroups] at hgroups
  generalize closingMarks s = n at hsplit hgroups
  cases n with
  | zero =>
    rw [List.replicate_zero, List.append_nil] at hsplit
    have hlast : ¬ ((docText s).getLast? == some '"') = true := by
      rw [getLast?_docText, beq_iff_eq, hsplit]
      exact hu
    have hread := readBody?_docText hs (.inl (hsplit ▸ hu)) hclose
    rwa [escapeLastQuote, if_neg hlast, List.append_nil] at *
  | succ m =>
    have hm : (m + 1) % 3 ≠ 0 := fun h => hgroups ⟨Nat.succ_pos m, h⟩
    have hs' : s = u ++ List.replicate m '"' ++ ['"'] := by
      rw [hsplit, List.replicate_succ', List.append_assoc]
    have hbefore : IsUnaltered (u ++ List.replicate m '"') := by
      intro c hc
      rw [hs'] at hs
      exact hs c (List.mem_append_left _ hc)
    have hread : readBody? docMarks 0 (docText (u ++ List.replicate m '"') ++
        ('\\' :: '"' :: (docMarks ++ after))) = some (u ++ List.replicate m '"' ++ ['"'], after) :=
      readBody?_docText hbefore (.inr (head?_ne_mark (by decide))) (readBody?_mark hclose)
    rw [hsplit, docText_concat_mark hu hm, escapeLastQuote_concat, List.append_assoc, ← hsplit]
    conv_rhs => rw [hs']
    exact hread

theorem readBody?_escapeLastQuote_of_groups (hs : IsUnaltered s) (hgroups : EndsInGroups s) :
    readBody? docMarks 0 (escapeLastQuote (docText s) ++ (docMarks ++ after)) =
      some (s.dropLast ++ ['\\'], '"' :: after) := by
  have hclose := readBody?_close docMarks_ne_nil ('"' :: after)
  obtain ⟨u, hu, hsplit⟩ := exists_eq_append_replicate s
  obtain ⟨hpos, hthree⟩ := hgroups
  generalize closingMarks s = n at hsplit hpos hthree
  obtain ⟨m, rfl⟩ : ∃ m, n = m + 3 := ⟨n - 3, by omega⟩
  have hm : m % 3 = 0 := by omega
  have hs' : s = u ++ List.replicate m '"' ++ ['"', '"'] ++ ['"'] := by
    rw [hsplit, List.replicate_add]
    simp only [List.append_assoc]
    rfl
  have hbefore : IsUnaltered (u ++ List.replicate m '"') := by
    intro c hc
    rw [hs'] at hs
    exact hs c (List.mem_append_left _ (List.mem_append_left _ hc))
  have hread : readBody? docMarks 0 (docText (u ++ List.replicate m '"') ++
      (['\\', '"', '\\', '"', '\\', '\\'] ++ (docMarks ++ '"' :: after))) =
        some (u ++ List.replicate m '"' ++ ['"', '"', '\\'], '"' :: after) :=
    readBody?_docText hbefore (.inr (head?_ne_mark (by decide)))
      (readBody?_mark (readBody?_mark (readBody?_slash hclose)))
  have hescaped : escapeLastQuote (docText s) =
      docText (u ++ List.replicate m '"') ++ ['\\', '"', '\\', '"', '\\', '\\', '"'] := by
    have hlast : escapedMarks = ['\\', '"', '\\', '"', '\\'] ++ ['"'] := rfl
    rw [hsplit, docText_concat_marks hu hm, hlast, ← List.append_assoc, escapeLastQuote_concat,
      List.append_assoc]
    rfl
  rw [hescaped, List.append_assoc, hs', List.dropLast_concat, List.append_assoc]
  exact hread

theorem readLiteral?_docMarks (s : List Char) :
    readLiteral? (docMarks ++ s) = readBody? docMarks 0 s := rfl

/-- A docstring is the indentation, one literal that opens with three marks, and a line end. The
literal stands for what the docstring is made for, unless the text of a docstring on one line ends
in groups of three double quotes. Then the literal ends one mark early, with a backslash in place of
the last double quote. -/
theorem docstring_stands_for (depth : Nat) {texts : List String}
    (h : ∀ s ∈ texts, IsUnaltered s.toList) :
    ∃ literal, (docstring depth texts).toList =
        (indentation depth).toList ++ (docMarks ++ literal ++ ['\n']) ∧
      ((∀ s, onOneLine? depth texts = some s → ¬ EndsInGroups s.toList) →
        readLiteral? (docMarks ++ literal ++ ['\n']) = some (docValue depth texts, ['\n'])) ∧
      ∀ s, onOneLine? depth texts = some s → EndsInGroups s.toList →
        readLiteral? (docMarks ++ literal ++ ['\n']) =
          some (s.toList.dropLast ++ ['\\'], ['"', '\n']) := by
  rw [docstring_eq, docValue]
  cases hone : onOneLine? depth texts with
  | some s =>
    have hs := h s (by rw [eq_of_onOneLine? hone]; exact List.mem_singleton_self s)
    refine ⟨escapeLastQuote (docText s.toList) ++ docMarks, ?_, ?_, ?_⟩
    · have hne : tripleQuote ++ String.ofList (escapeLastQuote (docText s.toList)) ++ tripleQuote
          ≠ "" := by
        simp [tripleQuote_ne]
      simp only [toList_line hne, toList_indentation, String.toList_append, String.toList_ofList,
        toList_tripleQuote, List.append_assoc]
    · intro hgroups
      rw [List.append_assoc, List.append_assoc, readLiteral?_docMarks]
      exact readBody?_escapeLastQuote hs (hgroups s rfl)
    · intro s' hs' hgroups
      obtain rfl := Option.some.inj hs'
      rw [List.append_assoc, List.append_assoc, readLiteral?_docMarks]
      exact readBody?_escapeLastQuote_of_groups hs hgroups
  | none =>
    refine ⟨'\n' :: (String.join (texts.map fun s => line depth
      (String.ofList (docText s.toList)))).toList ++ (indentation depth).toList ++ docMarks,
      ?_, ?_, nofun⟩
    · simp only [docLines, toList_line tripleQuote_ne, toList_indentation, String.toList_append,
        toList_tripleQuote, List.append_assoc, List.cons_append, List.nil_append]
    · intro _
      have hclose := readBody?_blanks (unit.length * depth) (readBody?_close docMarks_ne_nil ['\n'])
      have hread := readBody?_of_ne (c := '\n') (by decide) (by decide)
        (readBody?_lines depth h hclose)
      rw [List.append_nil, ← toList_indentation] at hread
      simpa only [readLiteral?_docMarks, String.toList_append, List.append_assoc, List.cons_append,
        List.nil_append] using hread

/-- A docstring of three lines with marks in it and at its end, and one on a single line that ends
with a mark. -/
theorem docstring_stands_for_lines :
    (∃ literal, (docstring 1 ["\"\"\"", "", "a\\\"b\""]).toList =
        [' ', ' ', ' ', ' '] ++ (docMarks ++ literal ++ ['\n']) ∧
      readLiteral? (docMarks ++ literal ++ ['\n']) =
        some ("\n    \"\"\"\n\n    a\\\"b\"\n    ".toList, ['\n'])) ∧
    ∃ literal, (docstring 0 ["say \"hi\""]).toList = docMarks ++ literal ++ ['\n'] ∧
      readLiteral? (docMarks ++ literal ++ ['\n']) = some ("say \"hi\"".toList, ['\n']) := by
  constructor
  · have htexts : ∀ s ∈ ["\"\"\"", "", "a\\\"b\""], IsUnaltered s.toList := by decide
    obtain ⟨literal, hwritten, hread, -⟩ := docstring_stands_for 1 htexts
    exact ⟨literal, hwritten, hread nofun⟩
  · have htexts : ∀ s ∈ ["say \"hi\""], IsUnaltered s.toList := by decide
    obtain ⟨literal, hwritten, hread, -⟩ := docstring_stands_for 0 htexts
    refine ⟨literal, hwritten, hread ?_⟩
    rintro _ ⟨⟩ ⟨-, hgroups⟩
    exact absurd hgroups (by decide)

/-- Three double quotes alone: the literal ends before the last mark of the line. -/
theorem docstring_broken_off :
    IsUnaltered "\"\"\"".toList ∧ docValue 0 ["\"\"\""] = ['"', '"', '"'] ∧
      readLiteral? (docstring 0 ["\"\"\""]).toList = some (['"', '"', '\\'], ['"', '\n']) := by
  decide

end Grounding.Lexing

import Grounding.Driver.Layout
import Grounding.Proofs.Text.Hexadecimal
import Grounding.Text.Quoted
import Mathlib.Data.List.Basic

/-!
# The literals of a driver

A driver is read character by character, as far as comments and string literals go. Outside them
each character counts; a literal leaves a single token, whatever it holds. A backslash in a literal
takes the next character with it. Three marks open a literal that may run over several lines. A
prefix of a literal is read as code, since it does not move the marks that close the literal.

The two ways in which a driver writes free text are each one literal to this reader: a quoted text,
and a docstring.
-/

namespace Grounding.Lexing

open Layout Text

/-- The marks that delimit literals. -/
def isMark (c : Char) : Bool := c == '"' || c == '\x27'

/-- The characters that end a line. -/
def isLineEnd (c : Char) : Bool := c == '\n' || c == '\r'

/-- Where the reader is. -/
inductive Mode where
  | code
  | comment
  /-- After one mark. -/
  | opened (mark : Char)
  /-- After two marks: an empty literal, unless a third mark follows. -/
  | doubled (mark : Char)
  /-- In a literal on one line. -/
  | short (mark : Char)
  | shortEscape (mark : Char)
  /-- In a literal between three marks each, after so many of the closing ones. -/
  | long (mark : Char) (closing : Nat)
  | longEscape (mark : Char)
  /-- After a line end in a literal on one line. -/
  | broken
deriving DecidableEq, Repr

/-- What the reader finds outside literals, and a token for each literal. -/
inductive Token where
  | code (c : Char)
  | comment (c : Char)
  | literal
deriving DecidableEq, Repr

namespace Mode

def nextInCode (c : Char) : Mode :=
  if c == '#' then comment else if isMark c then opened c else code

/-- After a character of a literal on one line. -/
def nextInShort (mark c : Char) : Mode :=
  if c == mark then code
  else if c == '\\' then shortEscape mark
  else if isLineEnd c then broken
  else short mark

/-- Where the reader is after one more character. -/
def next : Mode → Char → Mode
  | code, c => nextInCode c
  | comment, c => if isLineEnd c then code else comment
  | opened mark, c => if c == mark then doubled mark else nextInShort mark c
  | doubled mark, c => if c == mark then long mark 0 else nextInCode c
  | short mark, c => nextInShort mark c
  | shortEscape mark, _ => short mark
  | long mark closing, c =>
    if c == mark then (if closing == 2 then code else long mark (closing + 1))
    else if c == '\\' then longEscape mark
    else long mark 0
  | longEscape mark, _ => long mark 0
  | broken, _ => broken

/-- The token of a character of code; a mark stands for the literal that it opens. -/
def tokenInCode (c : Char) : Token :=
  if c == '#' then .comment c else if isMark c then .literal else .code c

/-- What one more character adds. -/
def emitted : Mode → Char → List Token
  | code, c => [tokenInCode c]
  | comment, c => if isLineEnd c then [.code c] else [.comment c]
  | doubled mark, c => if c == mark then [] else [tokenInCode c]
  | opened _, _ | short _, _ | shortEscape _, _ | long _ _, _ | longEscape _, _ | broken, _ => []

end Mode

/-- Where a text leads the reader, and what it has outside literals. -/
def run (m : Mode) : List Char → Mode × List Token
  | [] => (m, [])
  | c :: rest =>
    match run (m.next c) rest with
    | (m', tokens) => (m', m.emitted c ++ tokens)

/-- What a text has outside literals. -/
def outside (text : String) : List Token := (run .code text.toList).2

/-- A text ends outside all literals and comments, and no literal on one line is broken by a line
end. -/
def IsComplete (text : String) : Prop := (run .code text.toList).1 = .code

example : outside "x = \x27#\\\x27\x27  # y" =
    [.code 'x', .code ' ', .code '=', .code ' ', .literal, .code ' ', .code ' ', .comment '#',
      .comment ' ', .comment 'y'] := by decide

/-- A text leads the reader from one place to another, and has these tokens. -/
def Reads (m : Mode) (text : List Char) (m' : Mode) (tokens : List Token) : Prop :=
  run m text = (m', tokens)

instance (m : Mode) (text : List Char) (m' : Mode) (tokens : List Token) :
    Decidable (Reads m text m' tokens) :=
  inferInstanceAs (Decidable (run m text = (m', tokens)))

variable {m m' m'' : Mode} {u v w : List Char} {ts us : List Token} {c mark : Char}

theorem Reads.nil : Reads m [] m [] := rfl

theorem Reads.cons {first : List Token} (hnext : m.next c = m') (hemitted : m.emitted c = first)
    (h : Reads m' w m'' ts) : Reads m (c :: w) m'' (first ++ ts) := by
  rw [Reads, run, hnext, hemitted, h]

theorem Reads.append (hu : Reads m u m' ts) (hv : Reads m' v m'' us) :
    Reads m (u ++ v) m'' (ts ++ us) := by
  induction u generalizing m ts with
  | nil =>
    obtain ⟨rfl, rfl⟩ := Prod.mk.inj hu
    exact hv
  | cons c u ih =>
    rw [Reads, run] at hu
    obtain ⟨rfl, rfl⟩ := Prod.mk.inj hu
    rw [List.append_assoc]
    exact .cons rfl rfl (ih rfl)

/-! ### Code without literals -/

/-- Characters that are code wherever they stand outside literals. -/
def isInert (c : Char) : Bool := !isMark c && c != '#' && !isLineEnd c

theorem isMark_of_isInert (h : isInert c = true) : isMark c = false := by
  rw [isInert, Bool.and_eq_true, Bool.and_eq_true, Bool.not_eq_true'] at h
  exact h.1.1

theorem next_of_isInert (h : isInert c = true) : Mode.code.next c = .code := by
  have hmark := isMark_of_isInert h
  rw [isInert, Bool.and_eq_true, Bool.and_eq_true, bne_iff_ne] at h
  simp [Mode.next, Mode.nextInCode, h.1.2, hmark]

theorem emitted_of_isInert (h : isInert c = true) : Mode.code.emitted c = [.code c] := by
  have hmark := isMark_of_isInert h
  rw [isInert, Bool.and_eq_true, Bool.and_eq_true, bne_iff_ne] at h
  simp [Mode.emitted, Mode.tokenInCode, h.1.2, hmark]

theorem reads_inert (h : w.all isInert = true) : Reads .code w .code (w.map .code) := by
  induction w with
  | nil => exact .nil
  | cons c w ih =>
    rw [List.all_cons, Bool.and_eq_true] at h
    exact .cons (next_of_isInert h.1) (emitted_of_isInert h.1) (ih h.2)

/-- The places outside literals and comments. -/
inductive Mode.IsOutside : Mode → Prop
  | code : IsOutside .code
  | doubled {mark : Char} : isMark mark = true → IsOutside (.doubled mark)

theorem Mode.IsOutside.reads (hm : m.IsOutside) (hc : isMark c = false)
    (h : Reads .code (c :: w) m' ts) : Reads m (c :: w) m' ts := by
  cases hm with
  | code => exact h
  | @doubled mark hmark =>
    have hne : (c == mark) = false := by
      rw [beq_eq_false_iff_ne]
      rintro rfl
      exact Bool.noConfusion (hc.symm.trans hmark)
    simpa [Reads, run, Mode.next, Mode.emitted, hne] using h

/-! ### Quoted text -/

/-- Characters that neither end nor break a literal on one line, nor escape another character. -/
def isPlain (c : Char) : Bool := !isMark c && c != '\\' && !isLineEnd c

theorem all_isPlain_hexText (width n : Nat) :
    (hexText smallHexDigits width n).all isPlain = true :=
  all_hexText (by decide) (by decide) width n

theorem next_short (hmark : isMark mark = true) (hc : isPlain c = true) :
    (Mode.short mark).next c = .short mark := by
  simp only [isPlain, Bool.and_eq_true, Bool.not_eq_true', bne_iff_ne] at hc
  have hne : c ≠ mark := by
    rintro rfl
    exact Bool.noConfusion (hc.1.1.symm.trans hmark)
  simp [Mode.next, Mode.nextInShort, hne, hc]

theorem reads_short (hmark : isMark mark = true) (h : w.all isPlain = true) :
    Reads (.short mark) w (.short mark) [] := by
  induction w with
  | nil => exact .nil
  | cons c w ih =>
    rw [List.all_cons, Bool.and_eq_true] at h
    exact .cons (next_short hmark h.1) rfl (ih h.2)

theorem reads_shortEscape (hmark : isMark mark = true) (c : Char) (h : w.all isPlain = true) :
    Reads (.short mark) ('\\' :: c :: w) (.short mark) [] := by
  have hne : '\\' ≠ mark := by
    rintro rfl
    cases hmark
  have hnext : (Mode.short mark).next '\\' = .shortEscape mark := by
    simp [Mode.next, Mode.nextInShort, hne]
  exact .cons hnext rfl (.cons rfl rfl (reads_short hmark h))

theorem reads_quoteChar (hmark : isMark mark = true) (c : Char) :
    Reads (.short mark) (quoteChar mark c) (.short mark) [] := by
  rw [quoteChar]
  split
  · exact reads_shortEscape hmark c rfl
  split
  · exact reads_shortEscape hmark 'n' rfl
  split
  · exact reads_shortEscape hmark 'r' rfl
  split
  · exact reads_shortEscape hmark 't' rfl
  next hplain hn hr ht =>
  split
  · rw [Bool.or_eq_true, beq_iff_eq, beq_iff_eq, not_or] at hplain
    rw [beq_iff_eq] at hn hr
    have hnext : (Mode.short mark).next c = .short mark := by
      simp [Mode.next, Mode.nextInShort, isLineEnd, hplain.1, hplain.2, hn, hr]
    exact .cons hnext rfl .nil
  split
  · exact reads_shortEscape hmark 'x' (all_isPlain_hexText _ _)
  split
  · exact reads_shortEscape hmark 'u' (all_isPlain_hexText _ _)
  · exact reads_shortEscape hmark 'U' (all_isPlain_hexText _ _)

theorem reads_flatMap_quoteChar (hmark : isMark mark = true) (s : List Char) :
    Reads (.short mark) (s.flatMap (quoteChar mark)) (.short mark) [] := by
  induction s with
  | nil => exact .nil
  | cons c s ih => exact (reads_quoteChar hmark c).append ih

theorem isMark_quoteMark (s : List Char) : isMark (quoteMark s) = true := by
  rw [quoteMark]
  split <;> decide

theorem Reads.opened (hhead : w.head? ≠ some mark) (hne : w ≠ [])
    (h : Reads (.short mark) w m' ts) : Reads (.opened mark) w m' ts := by
  cases w with
  | nil => exact absurd rfl hne
  | cons c w =>
    have hc : c ≠ mark := fun h => hhead (congrArg some h)
    simpa [Reads, run, Mode.next, Mode.emitted, hc] using h

theorem next_mark (hmark : isMark mark = true) : Mode.code.next mark = .opened mark := by
  have hne : mark ≠ '#' := by
    rintro rfl
    cases hmark
  simp [Mode.next, Mode.nextInCode, hne, hmark]

theorem emitted_mark (hmark : isMark mark = true) : Mode.code.emitted mark = [.literal] := by
  have hne : mark ≠ '#' := by
    rintro rfl
    cases hmark
  simp [Mode.emitted, Mode.tokenInCode, hne, hmark]

theorem head?_quoteChar (mark c : Char) (hmark : isMark mark = true) :
    ∃ d rest, quoteChar mark c = d :: rest ∧ d ≠ mark := by
  have hslash : '\\' ≠ mark := by
    rintro rfl
    cases hmark
  rw [quoteChar]
  split
  · exact ⟨_, _, rfl, hslash⟩
  split
  · exact ⟨_, _, rfl, hslash⟩
  split
  · exact ⟨_, _, rfl, hslash⟩
  split
  · exact ⟨_, _, rfl, hslash⟩
  next hplain _ _ _ =>
  split
  · rw [Bool.or_eq_true, beq_iff_eq, beq_iff_eq, not_or] at hplain
    exact ⟨_, _, rfl, hplain.2⟩
  split
  · exact ⟨_, _, rfl, hslash⟩
  split
  · exact ⟨_, _, rfl, hslash⟩
  · exact ⟨_, _, rfl, hslash⟩

/-- A quoted text is one literal. -/
theorem reads_quoted (s : String) :
    ∃ m, m.IsOutside ∧ Reads .code (quoted s).toList m [.literal] := by
  have hmark := isMark_quoteMark s.toList
  generalize hm : quoteMark s.toList = mark at hmark
  have htext : (quoted s).toList = mark :: (s.toList.flatMap (quoteChar mark) ++ [mark]) := by
    rw [quoted, String.toList_ofList, hm, List.cons_append]
  have hopens : ∀ {w m'}, Reads (.opened mark) w m' [] → Reads .code (mark :: w) m' [.literal] :=
    fun h => h.cons (next_mark hmark) (emitted_mark hmark)
  rw [htext]
  cases hs : s.toList with
  | nil =>
    refine ⟨.doubled mark, .doubled hmark, hopens ?_⟩
    simp [Reads, run, Mode.next, Mode.emitted]
  | cons c rest =>
    obtain ⟨d, others, hd, hne⟩ := head?_quoteChar mark c hmark
    have hclose : Reads (.short mark) [mark] .code [] := by
      simp [Reads, run, Mode.next, Mode.nextInShort, Mode.emitted]
    have hbody := (reads_flatMap_quoteChar hmark (c :: rest)).append hclose
    refine ⟨.code, .code, hopens (hbody.opened ?_ ?_)⟩
    · rw [List.flatMap_cons, hd]
      exact fun h => hne (Option.some.inj h)
    · rw [List.flatMap_cons, hd]
      exact nofun

/-! ### Docstrings -/

/-- The three marks of a docstring. -/
def docMarks : List Char := ['"', '"', '"']

theorem docMarks_ne_nil : docMarks ≠ [] := List.cons_ne_nil _ _

theorem toList_tripleQuote : tripleQuote.toList = docMarks := by decide

theorem prefix_of_prefix_doubleBackslashes {s t : List Char} (ht : '\\' ∉ t)
    (h : t <+: doubleBackslashes s) : t <+: s := by
  induction t generalizing s with
  | nil => exact List.nil_prefix
  | cons d t ih =>
    rw [List.mem_cons, not_or] at ht
    cases s with
    | nil => exact absurd (List.prefix_nil.1 h) nofun
    | cons c s =>
      rw [doubleBackslashes] at h
      split at h
      · exact absurd (List.cons_prefix_cons.1 h).1.symm ht.1
      · obtain ⟨rfl, hrest⟩ := List.cons_prefix_cons.1 h
        exact List.cons_prefix_cons.2 ⟨rfl, ih ht.2 hrest⟩

theorem docText_cons {s : List Char} (hslash : c ≠ '\\') (h : ¬ docMarks <+: c :: s) :
    docText (c :: s) = c :: docText s := by
  have hfirst : doubleBackslashes (c :: s) = c :: doubleBackslashes s := by
    simp [doubleBackslashes, hslash]
  rw [docText, hfirst, escapeTripleQuotes]
  · rfl
  · rintro rest rfl hrest
    refine h (prefix_of_prefix_doubleBackslashes (by decide) ?_)
    rw [hfirst, hrest]
    exact ⟨rest, rfl⟩

/-- A text is escaped from its beginning: three marks, a backslash, or a character of any kind that
begins neither. -/
theorem docText_induction {P : List Char → Prop} (nil : P [])
    (marks : ∀ s, P s → P (docMarks ++ s)) (slash : ∀ s, P s → P ('\\' :: s))
    (plain : ∀ c s, c ≠ '\\' → ¬ docMarks <+: c :: s → P s → P (c :: s)) (s : List Char) : P s := by
  match s with
  | [] => exact nil
  | c :: s =>
    by_cases hmarks : docMarks <+: c :: s
    · obtain ⟨t, ht⟩ := hmarks
      have hshorter : t.length < (c :: s).length := by
        rw [← ht, List.length_append]
        exact Nat.lt_add_of_pos_left (by decide)
      rw [← ht]
      exact marks t (docText_induction nil marks slash plain t)
    · by_cases hslash : c = '\\'
      · rw [hslash]
        exact slash s (docText_induction nil marks slash plain s)
      · exact plain c s hslash hmarks (docText_induction nil marks slash plain s)
termination_by s.length
decreasing_by
  · exact hshorter
  · exact Nat.lt_succ_self s.length
  · exact Nat.lt_succ_self s.length

/-- Three marks, with a backslash each. -/
def escapedMarks : List Char := ['\\', '"', '\\', '"', '\\', '"']

theorem docText_marks (s : List Char) : docText (docMarks ++ s) = escapedMarks ++ docText s := rfl

theorem docText_slash (s : List Char) : docText ('\\' :: s) = '\\' :: '\\' :: docText s := rfl

/-- With so many closing marks before it and those that it begins with, a text never comes to
three. -/
def FitsAfter (closing : Nat) (s : List Char) : Prop :=
  closing = 0 ∨ closing = 1 ∧ ¬ ['"', '"'] <+: s ∨ closing = 2 ∧ ¬ ['"'] <+: s

theorem FitsAfter.succ {closing : Nat} {s : List Char} (h : FitsAfter closing ('"' :: s))
    (hs : ¬ docMarks <+: '"' :: s) : closing ≠ 2 ∧ FitsAfter (closing + 1) s := by
  simp only [FitsAfter, docMarks, List.cons_prefix_cons, true_and, List.nil_prefix, not_true,
    and_false, or_false] at h hs ⊢
  rcases h with rfl | ⟨rfl, h⟩
  · exact ⟨nofun, .inr (.inl ⟨rfl, hs⟩)⟩
  · exact ⟨nofun, .inr (.inr ⟨rfl, h⟩)⟩

/--
The escaped text leaves the reader in the docstring. Some of the marks needed to close it can have
been met in the end, but only if they are the end of the text.
-/
theorem reads_docText (s : List Char) {closing : Nat} (h : FitsAfter closing s) :
    ∃ closing', Reads (.long '"' closing) (docText s) (.long '"' closing') [] ∧ closing' ≤ 2 ∧
      (closing = 0 ∨ s ≠ [] → s.getLast? ≠ some '"' → closing' = 0) := by
  have hlast {c : Char} {s : List Char} (h : (c :: s).getLast? ≠ some '"') :
      s.getLast? ≠ some '"' := by
    cases s with
    | nil => exact nofun
    | cons d s => exact h
  induction s using docText_induction generalizing closing with
  | nil =>
    have hle : closing ≤ 2 := by
      rcases h with rfl | ⟨rfl, -⟩ | ⟨rfl, -⟩ <;> decide
    exact ⟨closing, .nil, hle, fun h _ => h.resolve_right (absurd rfl)⟩
  | marks s ih =>
    -- Three marks have a backslash each, and the reader starts anew behind them.
    obtain rfl : closing = 0 := by
      simpa [FitsAfter, docMarks, List.cons_prefix_cons] using h
    obtain ⟨closing', hread, hle, hzero⟩ := ih (.inl rfl)
    have hmarks : Reads (.long '"' 0) escapedMarks (.long '"' 0) [] := by decide
    exact ⟨closing', hmarks.append hread, hle,
      fun _ h => hzero (.inl rfl) (hlast (hlast (hlast h)))⟩
  | slash s ih =>
    obtain ⟨closing', hread, hle, hzero⟩ := ih (.inl rfl)
    exact ⟨closing', .cons rfl rfl (.cons rfl rfl hread), hle,
      fun _ h => hzero (.inl rfl) (hlast h)⟩
  | plain c s hslash hmarks ih =>
    rw [docText_cons hslash hmarks]
    by_cases hmark : c = '"'
    · -- Any other mark stands as it is and counts as a closing one.
      subst hmark
      obtain ⟨htwo, hfits⟩ := h.succ hmarks
      obtain ⟨closing', hread, hle, hzero⟩ := ih hfits
      refine ⟨closing', .cons ?_ rfl hread, hle, ?_⟩
      · simp [Mode.next, htwo]
      · intro _ hend
        cases s with
        | nil => exact absurd rfl hend
        | cons d s => exact hzero (.inr nofun) hend
    · obtain ⟨closing', hread, hle, hzero⟩ := ih (.inl rfl)
      refine ⟨closing', .cons ?_ rfl hread, hle, fun _ h => hzero (.inl rfl) (hlast h)⟩
      simp [Mode.next, hmark, hslash]

theorem getLast?_docText (s : List Char) : (docText s).getLast? = s.getLast? := by
  have hdouble : ∀ s, (doubleBackslashes s).getLast? = s.getLast? := fun s => by
    fun_induction doubleBackslashes s with
    | case1 => rfl
    | case2 c rest hc ih => simp [List.getLast?_cons, ih, (beq_iff_eq.1 hc)]
    | case3 c rest _ ih => simp [List.getLast?_cons, ih]
  have htriple : ∀ s, (escapeTripleQuotes s).getLast? = s.getLast? := fun s => by
    fun_induction escapeTripleQuotes s with
    | case1 rest ih => simp [List.getLast?_cons, ih]
    | case2 c rest _ ih => simp [List.getLast?_cons, ih]
    | case3 => rfl
  rw [docText, htriple, hdouble]

/-! ### Lines -/

theorem toList_indentation (depth : Nat) :
    (indentation depth).toList = List.replicate (unit.length * depth) ' ' := by
  induction depth with
  | zero => rfl
  | succ depth ih =>
    rw [indentation, String.toList_append, ih, Nat.mul_succ, Nat.add_comm, List.replicate_add]
    rfl

theorem toList_line {text : String} (h : text ≠ "") (depth : Nat) : (line depth text).toList =
    List.replicate (unit.length * depth) ' ' ++ (text.toList ++ ['\n']) := by
  have hne : text.isEmpty = false := Bool.eq_false_iff.2 fun h' => h (String.isEmpty_iff.1 h')
  rw [line, hne, if_neg nofun, String.toList_append, String.toList_append, toList_indentation,
    List.append_assoc]
  rfl

theorem line_empty (depth : Nat) : line depth "" = "\n" := rfl

def blanks (depth : Nat) : List Token := List.replicate (unit.length * depth) (.code ' ')

theorem reads_blanks (depth : Nat) :
    Reads .code (List.replicate (unit.length * depth) ' ') .code (blanks depth) := by
  have hinert : (List.replicate (unit.length * depth) ' ').all isInert = true := by
    rw [List.all_replicate]
    split <;> rfl
  have hread := reads_inert hinert
  rwa [List.map_replicate] at hread

theorem reads_blanks_in_docstring (n : Nat) :
    Reads (.long '"' 0) (List.replicate n ' ') (.long '"' 0) [] := by
  induction n with
  | zero => exact .nil
  | succ n ih => exact .cons rfl rfl ih

theorem reads_line_of_docstring (depth : Nat) (s : List Char) :
    Reads (.long '"' 0) (line depth (String.ofList (docText s))).toList (.long '"' 0) [] := by
  obtain ⟨closing, hread, hle, -⟩ := reads_docText s (.inl rfl)
  have hend : Reads (.long '"' closing) ['\n'] (.long '"' 0) [] := .cons rfl rfl .nil
  by_cases hempty : String.ofList (docText s) = ""
  · rw [hempty, line_empty]
    decide
  · rw [toList_line hempty, String.toList_ofList]
    exact (reads_blanks_in_docstring _).append (hread.append hend)

/-- A docstring line by line. -/
def docLines (depth : Nat) (texts : List String) : String :=
  line depth tripleQuote ++
    String.join (texts.map fun s => line depth (String.ofList (docText s.toList))) ++
    line depth tripleQuote

/-- The text that a docstring on one line is made for, if the docstring is on one line. -/
def onOneLine? (depth : Nat) : List String → Option String
  | [s] => if (indentation depth).length + (docText s.toList).length < docstringWidth then some s
    else none
  | _ => none

theorem eq_of_onOneLine? {depth : Nat} {texts : List String} {s : String}
    (h : onOneLine? depth texts = some s) : texts = [s] := by
  rw [onOneLine?.eq_def] at h
  split at h
  · rw [Option.ite_none_right_eq_some, Option.some.injEq] at h
    rw [h.2]
  · cases h

theorem docstring_eq (depth : Nat) (texts : List String) : docstring depth texts =
    match onOneLine? depth texts with
    | some s => line depth (tripleQuote ++ String.ofList (escapeLastQuote (docText s.toList)) ++
        tripleQuote)
    | none => docLines depth texts := by
  rcases texts with _ | ⟨s, _ | ⟨t, texts⟩⟩
  · rfl
  · rw [docstring, onOneLine?]
    by_cases hshort : (indentation depth).length + (docText s.toList).length < docstringWidth
    · rw [if_pos hshort]
      exact if_pos hshort
    · rw [if_neg hshort]
      exact if_neg hshort
  · rw [docLines]
    simp only [docstring, List.map_cons, List.map_map]
    rfl

def docTokens (depth : Nat) : List Token := blanks depth ++ [.literal, .code '\n']

theorem tripleQuote_ne : tripleQuote ≠ "" := by decide

theorem reads_docLines (depth : Nat) (texts : List String) :
    Reads .code (docLines depth texts).toList .code (docTokens depth) := by
  have hopen : Reads .code (tripleQuote.toList ++ ['\n']) (.long '"' 0) [.literal] := by decide
  have hclose : Reads (.long '"' 0) (tripleQuote.toList ++ ['\n']) .code [.code '\n'] := by decide
  have hlines : Reads (.long '"' 0)
      (String.join (texts.map fun s => line depth (String.ofList (docText s.toList)))).toList
      (.long '"' 0) [] := by
    induction texts with
    | nil => exact .nil
    | cons s texts ih =>
      rw [List.map_cons, String.join_cons, String.toList_append]
      exact (reads_line_of_docstring depth s.toList).append ih
  rw [docLines, String.toList_append, String.toList_append, toList_line tripleQuote_ne]
  have hread := (((reads_blanks depth).append hopen).append hlines).append
    ((reads_blanks_in_docstring (unit.length * depth)).append hclose)
  simpa only [docTokens, List.append_nil, List.nil_append, List.append_assoc, List.cons_append]
    using hread

/-- A docstring is a literal on lines of its own. A single text must not end in a mark: the escape
of a mark at the end would itself be escaped in a text that ends in three. -/
theorem reads_docstring (depth : Nat) {texts : List String}
    (h : ∀ s, texts = [s] → s.toList.getLast? ≠ some '"') :
    Reads .code (docstring depth texts).toList .code (docTokens depth) := by
  rw [docstring_eq]
  cases hone : onOneLine? depth texts with
  | none => exact reads_docLines depth texts
  | some s =>
    have hend := h s (eq_of_onOneLine? hone)
    obtain ⟨closing, hread, -, hzero⟩ := reads_docText s.toList (.inl rfl)
    obtain rfl := hzero (.inl rfl) hend
    have hquoted : Reads .code (tripleQuote.toList ++ docText s.toList ++
        (tripleQuote.toList ++ ['\n'])) .code [.literal, .code '\n'] := by
      have hopen : Reads .code tripleQuote.toList (.long '"' 0) [.literal] := by decide
      have hclose : Reads (.long '"' 0) (tripleQuote.toList ++ ['\n']) .code [.code '\n'] := by
        decide
      exact (hopen.append hread).append hclose
    have hlast : escapeLastQuote (docText s.toList) = docText s.toList := by
      rw [escapeLastQuote, getLast?_docText, if_neg (by simpa using hend)]
    have hne : tripleQuote ++ String.ofList (docText s.toList) ++ tripleQuote ≠ "" := by
      simp [tripleQuote_ne]
    simp only [hlast, toList_line hne]
    simp only [String.toList_append, String.toList_ofList, List.append_assoc] at hquoted ⊢
    exact (reads_blanks depth).append hquoted

end Grounding.Lexing

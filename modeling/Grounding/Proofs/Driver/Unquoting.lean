import Grounding.Proofs.Driver.Lexing
import Grounding.Proofs.Text.Hexadecimal
import Mathlib.Data.Option.Basic

/-!
# What literals stand for

A literal of a driver stands for a text. The first marks that close it, escapes apart, end it; an
escape stands for one character, by a letter or by its number; a line end may stand in a literal
between three marks each, and any other character stands for itself. Escapes that no driver has are
refused, and so are the characters that a reader of a file would not see as they are.

A quoted text stands for the text that was quoted (`readLiteral?_quoted`), so no two texts are
quoted alike.
-/

namespace Grounding.Lexing

open Layout Text

-- Powers are the core library's, whatever else is imported beside this module.
attribute [local instance (high)] instPowNat

/-- The escapes of one letter, each with the character that it stands for. -/
def shortEscapes : List (Char × Char) :=
  [('\\', '\\'), ('\x27', '\x27'), ('"', '"'), ('n', '\n'), ('r', '\r'), ('t', '\t')]

/-- The letters of the escapes by number, each with the number of its hexadecimal digits. -/
def numberEscapes : List (Char × Nat) := [('x', 2), ('u', 4), ('U', 8)]

/-- The character that an escape stands for, and how long the escape is behind its backslash. -/
def readEscape? : List Char → Option (Char × Nat)
  | [] => none
  | e :: rest =>
    match shortEscapes.lookup e with
    | some c => some (c, 1)
    | none => do
      let width ← numberEscapes.lookup e
      guard (width ≤ rest.length)
      let n ← hexNumber? (rest.take width)
      guard n.isValidChar
      return (Char.ofNat n, width + 1)

/-- Whether a character stands for itself before the given closing marks. -/
def standsForItself (close : List Char) (c : Char) : Bool :=
  c != '\\' && c != '\x00' && c != '\r' && (c != '\n' || close.length == 3)

/--
The text that a literal stands for, up to the marks that close it, and what follows them. The
counter `skip` holds how many characters of an escape are still to be passed over.
-/
def readBody? (close : List Char) : Nat → List Char → Option (List Char × List Char)
  | _, [] => none
  | skip + 1, _ :: rest => readBody? close skip rest
  | 0, c :: rest =>
    if close.isPrefixOf (c :: rest) then some ([], (c :: rest).drop close.length)
    else if c == '\\' then do
      let (d, width) ← readEscape? rest
      let (s, after) ← readBody? close width rest
      return (d :: s, after)
    else do
      guard (standsForItself close c)
      let (s, after) ← readBody? close 0 rest
      return (c :: s, after)

/-- What the literal at the beginning of a text stands for, and what follows the literal. -/
def readLiteral? : List Char → Option (List Char × List Char)
  | [] => none
  | mark :: rest =>
    if !isMark mark then none
    else if [mark, mark].isPrefixOf rest then readBody? [mark, mark, mark] 0 (rest.drop 2)
    else readBody? [mark] 0 rest

example : readLiteral? "\x27a\\\x27\\u00e9\x27 + b".toList =
    some (['a', '\x27', 'é'], [' ', '+', ' ', 'b']) := by decide

/-! ### Step by step -/

variable {close s after v : List Char} {c : Char}

theorem readBody?_drop (close : List Char) (skip : Nat) (s : List Char) :
    readBody? close skip s = readBody? close 0 (s.drop skip) := by
  induction s generalizing skip with
  | nil => cases skip <;> rfl
  | cons c s ih =>
    cases skip with
    | zero => rfl
    | succ skip => rw [readBody?, ih, List.drop_succ_cons]

theorem readBody?_close (hne : close ≠ []) (after : List Char) :
    readBody? close 0 (close ++ after) = some ([], after) := by
  obtain ⟨mark, marks, rfl⟩ := List.exists_cons_of_ne_nil hne
  have hprefix : (mark :: marks).isPrefixOf (mark :: (marks ++ after)) = true :=
    List.isPrefixOf_iff_prefix.2 (List.prefix_append (mark :: marks) after)
  rw [List.cons_append, readBody?, if_pos hprefix, ← List.cons_append, List.drop_left]

theorem readBody?_plain (hclose : ¬ close <+: c :: s) (hc : standsForItself close c = true)
    (h : readBody? close 0 s = some (v, after)) :
    readBody? close 0 (c :: s) = some (c :: v, after) := by
  have hslash : ¬ (c == '\\') = true := by
    rintro hslash
    rw [beq_iff_eq.1 hslash] at hc
    exact Bool.noConfusion hc
  have hprefix : ¬ close.isPrefixOf (c :: s) = true := by rwa [List.isPrefixOf_iff_prefix]
  rw [readBody?, if_neg hprefix, if_neg hslash, hc, h]
  rfl

theorem readBody?_escape {e : List Char} (hclose : close.head? ≠ some '\\') (hne : close ≠ [])
    (he : readEscape? (e ++ s) = some (c, e.length))
    (h : readBody? close 0 s = some (v, after)) :
    readBody? close 0 ('\\' :: e ++ s) = some (c :: v, after) := by
  obtain ⟨mark, marks, rfl⟩ := List.exists_cons_of_ne_nil hne
  have hprefix : ¬ (mark :: marks).isPrefixOf ('\\' :: (e ++ s)) = true := by
    rw [List.isPrefixOf_iff_prefix, List.cons_prefix_cons]
    rintro ⟨rfl, -⟩
    exact hclose rfl
  rw [List.cons_append, readBody?, if_neg hprefix, if_pos (beq_self_eq_true _), he]
  simp only [Option.bind_eq_bind, Option.bind_some]
  rw [readBody?_drop, List.drop_left, h]
  rfl

theorem readEscape?_short {e : Char} (h : shortEscapes.lookup e = some c) (s : List Char) :
    readEscape? (e :: s) = some (c, 1) := by
  rw [readEscape?, h]

theorem readEscape?_number {e : Char} {width : Nat} (hshort : shortEscapes.lookup e = none)
    (hnumber : numberEscapes.lookup e = some width) (hc : c.toNat < 16 ^ width) (s : List Char) :
    readEscape? (e :: hexText smallHexDigits width c.toNat ++ s) = some (c, width + 1) := by
  have hlength : (hexText smallHexDigits width c.toNat).length = width := length_hexText width _
  have htake : (hexText smallHexDigits width c.toNat ++ s).take width =
      hexText smallHexDigits width c.toNat := List.take_left' hlength
  have hle : width ≤ (hexText smallHexDigits width c.toNat ++ s).length := by
    rw [List.length_append, hlength]
    exact Nat.le_add_right width s.length
  have hvalid : c.toNat.isValidChar := c.valid
  rw [List.cons_append, readEscape?, hshort]
  simp only [hnumber, Option.bind_eq_bind, Option.bind_some, htake, hle, guard_true,
    hexNumber?_hexText isHexDigits_small hc, hvalid, Char.ofNat_toNat]
  rfl

/-! ### Quoted text -/

theorem mark_cases {mark : Char} (hmark : isMark mark = true) : mark = '"' ∨ mark = '\x27' := by
  rwa [isMark, Bool.or_eq_true, beq_iff_eq, beq_iff_eq] at hmark

theorem readBody?_quoteChar {mark : Char} (hmark : isMark mark = true) (c : Char)
    (h : readBody? [mark] 0 s = some (v, after)) :
    readBody? [mark] 0 (quoteChar mark c ++ s) = some (c :: v, after) := by
  have hslash : [mark].head? ≠ some '\\' := by
    rcases mark_cases hmark with rfl | rfl <;> decide
  have hshort : ∀ {e : Char}, shortEscapes.lookup e = some c →
      readBody? [mark] 0 ('\\' :: e :: s) = some (c :: v, after) := fun {e} he =>
    readBody?_escape hslash (List.cons_ne_nil _ _) (e := [e]) (readEscape?_short he s) h
  have hnumber : ∀ {e : Char} {width : Nat}, shortEscapes.lookup e = none →
      numberEscapes.lookup e = some width → c.toNat < 16 ^ width →
      readBody? [mark] 0 (['\\', e] ++ hexText smallHexDigits width c.toNat ++ s) =
        some (c :: v, after) := fun {e width} hnone he hc => by
    have hlength : (e :: hexText smallHexDigits width c.toNat).length = width + 1 := by
      rw [List.length_cons, length_hexText]
    have hescape := readEscape?_number hnone he hc s
    rw [← hlength] at hescape
    exact readBody?_escape hslash (List.cons_ne_nil _ _) hescape h
  rw [quoteChar]
  split
  · next hc =>
    rw [Bool.or_eq_true, beq_iff_eq, beq_iff_eq] at hc
    apply hshort
    rcases hc with rfl | rfl
    · rfl
    · rcases mark_cases hmark with rfl | rfl <;> rfl
  split
  · next hc => exact hshort (by rw [beq_iff_eq.1 hc]; rfl)
  split
  · next hc => exact hshort (by rw [beq_iff_eq.1 hc]; rfl)
  split
  · next hc => exact hshort (by rw [beq_iff_eq.1 hc]; rfl)
  next hplain hn hr _ =>
  split
  · next hprint =>
    have hnul : c ≠ '\x00' := by
      rintro rfl
      exact absurd hprint (by decide)
    rw [Bool.or_eq_true, beq_iff_eq, beq_iff_eq, not_or] at hplain
    rw [beq_iff_eq] at hn hr
    refine readBody?_plain ?_ ?_ h
    · rw [List.cons_prefix_cons]
      exact fun hprefix => hplain.2 hprefix.1.symm
    · simp [standsForItself, hplain.1, hnul, hn, hr]
  split
  · next hc => exact hnumber rfl rfl hc
  split
  · next hc => exact hnumber rfl rfl hc
  · have hvalid : c.toNat < 0xd800 ∨ 0xdfff < c.toNat ∧ c.toNat < 0x110000 := c.valid
    have hc : c.toNat < 16 ^ 8 := by omega
    exact hnumber rfl rfl hc

theorem readBody?_flatMap_quoteChar {mark : Char} (hmark : isMark mark = true) (s : List Char) :
    readBody? [mark] 0 (s.flatMap (quoteChar mark) ++ [mark]) = some (s, []) := by
  induction s with
  | nil => exact readBody?_close (List.cons_ne_nil _ _) []
  | cons c s ih =>
    rw [List.flatMap_cons, List.append_assoc]
    exact readBody?_quoteChar hmark c ih

theorem readLiteral?_quoted (s : String) :
    readLiteral? (quoted s).toList = some (s.toList, []) := by
  have hmark := isMark_quoteMark s.toList
  generalize hm : quoteMark s.toList = mark at hmark
  have htext : (quoted s).toList = mark :: (s.toList.flatMap (quoteChar mark) ++ [mark]) := by
    rw [quoted, String.toList_ofList, hm, List.cons_append]
  -- three marks do not open a quoted text: behind the first one stands a form, or the last mark
  have hopen : ¬ [mark, mark].isPrefixOf (s.toList.flatMap (quoteChar mark) ++ [mark]) = true := by
    rw [List.isPrefixOf_iff_prefix]
    cases s.toList with
    | nil => exact fun hprefix => absurd hprefix.length_le (by simp)
    | cons c rest =>
      obtain ⟨d, others, hd, hne⟩ := head?_quoteChar mark c hmark
      rw [List.flatMap_cons, hd, List.cons_append, List.cons_append, List.cons_prefix_cons]
      exact fun hprefix => hne hprefix.1.symm
  rw [htext, readLiteral?, hmark, Bool.not_true, if_neg Bool.false_ne_true, if_neg hopen]
  exact readBody?_flatMap_quoteChar hmark s.toList

theorem quoted_injective {s t : String} (h : quoted s = quoted t) : s = t := by
  have hread := readLiteral?_quoted s
  rw [h, readLiteral?_quoted, Option.some.injEq, Prod.mk.injEq] at hread
  exact String.toList_injective hread.1.symm

end Grounding.Lexing

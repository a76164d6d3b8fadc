import Grounding.Driver.Method
import Grounding.Proofs.Driver.Step
import Grounding.Proofs.Driver.Unquoting
import Grounding.Proofs.Number.Shortest
import Grounding.Proofs.Synthesis.Creation

/-!
# Literals of primitive types

A scalar literal of a driver is a word for a truth value, a quoted text or a number. A parameter of
a primitive type is written as such a literal, and the literal stands for its value, unless this is
an infinity or no number: then a mere name is written, which stands for nothing.
-/

namespace Grounding.Lexing

open Text Numeral Json

def truthWords : List (List Char × Bool) := [("True".toList, true), ("False".toList, false)]

/--
The number that a text without a sign stands for: an integer if it is all digits, not too many and
without a superfluous zero in front, else a floating-point number.
-/
def readNumber? (negative : Bool) (s : List Char) : Option Value :=
  if s.all Char.isDigit then do
    guard (s ≠ [] ∧ s.length ≤ digitLimit ∧ (s.head? = some '0' → s = ['0']))
    return .int (Binary64.signed negative (ofDigits s))
  else (readDecimal? negative s).map .float

/-- The value that a scalar literal stands for. Only numbers have signs. -/
def readScalar? (s : List Char) : Option Value :=
  match readLiteral? s with
  | some (t, after) => if after.isEmpty then some (.text (String.ofList t)) else none
  | none =>
    match truthWords.lookup s with
    | some b => some (.bool b)
    | none => readNumber? (splitSign s).1 (splitSign s).2

example : readScalar? "-1.5e3".toList = some (.float (.ofDecimal true 15 2)) := by rfl

variable {s : List Char} {c : Char} {negative : Bool}

/-! ### Words and texts -/

theorem readScalar?_truth (b : Bool) : readScalar? (Value.bool b).sourceChars = some (.bool b) := by
  cases b <;> rfl

theorem readScalar?_quoted (t : String) : readScalar? (quoted t).toList = some (.text t) := by
  rw [readScalar?, readLiteral?_quoted]
  exact congrArg (some ∘ Value.text) String.ofList_toList

/-! ### Numbers -/

theorem readScalar?_number (hc : c = '-' ∨ c.isDigit = true) (s : List Char) :
    readScalar? (c :: s) = readNumber? (splitSign (c :: s)).1 (splitSign (c :: s)).2 := by
  have hne : ∀ d : Char, d ≠ '-' → d.isDigit = false → (c == d) = false := by
    intro d hsign hdigit
    refine beq_eq_false_iff_ne.2 ?_
    rintro rfl
    exact hc.elim hsign fun hc => Bool.noConfusion (hc.symm.trans hdigit)
  have hliteral : readLiteral? (c :: s) = none := by
    rw [readLiteral?, isMark, hne '"' (by decide) rfl, hne '\x27' (by decide) rfl]
    rfl
  have hword : truthWords.lookup (c :: s) = none := by
    have htrue : (c :: s == "True".toList) = false := by
      show (c == 'T' && s == "rue".toList) = false
      rw [hne 'T' (by decide) rfl, Bool.false_and]
    have hfalse : (c :: s == "False".toList) = false := by
      show (c == 'F' && s == "alse".toList) = false
      rw [hne 'F' (by decide) rfl, Bool.false_and]
    rw [truthWords, List.lookup_cons, htrue, List.lookup_cons, hfalse]
    rfl
  rw [readScalar?, hliteral, hword]

theorem readScalar?_signed (hs : ∃ c rest, s = c :: rest ∧ c.isDigit = true) (negative : Bool) :
    readScalar? (signText negative ++ s) = readNumber? negative s := by
  obtain ⟨c, rest, rfl, hc⟩ := hs
  cases negative with
  | true => exact readScalar?_number (.inl rfl) (c :: rest)
  | false =>
    have hsign : splitSign (c :: rest) = (false, c :: rest) :=
      splitSign_append (fun d hd => by cases hd; exact hc) false
    show readScalar? (c :: rest) = _
    rw [readScalar?_number (.inr hc), hsign]

theorem readScalar?_int {n : Int} (hn : isWritable n = true) :
    readScalar? (toString n).toList = some (.int n) := by
  have hwhole := isWhole_toDigits n.natAbs
  have hlength : (Nat.toDigits 10 n.natAbs).length ≤ digitLimit := by
    rw [Nat.length_toDigits_le_iff (by decide) (by decide)]
    exact of_decide_eq_true hn
  have htext : (toString n).toList = signText (decide (n < 0)) ++ Nat.toDigits 10 n.natAbs := by
    rw [toList_toString, signText]
    simp only [decide_eq_true_eq]
  have hhead : ∃ c rest, Nat.toDigits 10 n.natAbs = c :: rest ∧ c.isDigit = true := by
    obtain ⟨c, rest, hdigits⟩ := List.exists_cons_of_ne_nil hwhole.1.1
    exact ⟨c, rest, hdigits, hwhole.1.2 c (hdigits ▸ List.mem_cons_self)⟩
  have hvalue : Json.int _ = Json.int n := numberOf_toDigits n
  rw [htext, readScalar?_signed hhead, readNumber?, if_pos (List.all_eq_true.2 hwhole.1.2),
    guard, if_pos ⟨hwhole.1.1, hlength, hwhole.2⟩]
  exact congrArg (some ∘ Value.int) (Json.int.inj hvalue)

theorem readScalar?_float {x : Binary64} (hx : x.IsSigned negative) (hfinite : x.isFinite = true) :
    readScalar? x.text.toList = some (.float x) := by
  rcases hx with rfl | ⟨m, e, rfl, hm⟩
  · cases hfinite
  · obtain ⟨s, k, q, htext, hwrites, hread⟩ := Binary64.toList_text_finite hm negative
    rw [htext, readScalar?_signed hwrites.head, readNumber?, hwrites.not_all_isDigit,
      if_neg Bool.false_ne_true, hwrites.readDecimal?, hread]
    rfl

/-! ### Names -/

theorem readNumber?_name (hword : isWord c = true) (hdigit : Text.isDigit c = false)
    (negative : Bool) (s : List Char) : readNumber? negative (c :: s) = none := by
  have hpoint : c ≠ '.' := by
    rintro rfl
    exact absurd hword (by decide)
  have hdigit : c.isDigit = false := by
    by_contra hdigit'
    obtain ⟨d, hd, rfl⟩ := eq_digitChar_of_isDigit (Bool.eq_true_of_not_eq_false hdigit')
    refine absurd hdigit ?_
    clear hdigit hdigit' hword hpoint
    interval_cases d <;> decide
  rw [readNumber?, List.all_cons, hdigit, Bool.false_and, if_neg Bool.false_ne_true, readDecimal?,
    List.takeWhile_cons_of_neg (by simp [hdigit]), List.dropWhile_cons_of_neg (by simp [hdigit])]
  split
  next fraction rest hsplit =>
    split at hsplit
    · next heq => exact absurd (List.cons.inj heq).1 hpoint
    · cases hsplit
      rfl

theorem readScalar?_name (hword : isWord c = true) (hdigit : Text.isDigit c = false)
    (hs : c :: s ∉ truthWords.map Prod.fst) : readScalar? (c :: s) = none := by
  have hne : ∀ d : Char, isWord d = false → c ≠ d := by
    rintro d hd rfl
    exact Bool.noConfusion (hd.symm.trans hword)
  have hliteral : readLiteral? (c :: s) = none := by
    rw [readLiteral?, isMark, beq_eq_false_iff_ne.2 (hne '"' (by decide)),
      beq_eq_false_iff_ne.2 (hne '\x27' (by decide))]
    rfl
  have hlookup : truthWords.lookup (c :: s) = none := by
    rw [List.lookup_eq_none_iff]
    intro w hw
    rw [bne_iff_ne]
    rintro heq
    exact hs (heq ▸ List.mem_map_of_mem hw)
  have hsign : splitSign (c :: s) = (false, c :: s) := by
    rw [splitSign]
    rintro rest heq
    exact hne '-' (by decide) (List.cons.inj heq).1
  rw [readScalar?, hliteral, hlookup, hsign]
  exact readNumber?_name hword hdigit false s

theorem readScalar?_not_finite {x : Binary64} (hx : x.isFinite = false) :
    x.text ∈ ["nan", "inf", "-inf"] ∧ readScalar? x.text.toList = none := by
  cases x with
  | nan => exact ⟨by decide, readScalar?_name (by decide) (by decide) (by decide)⟩
  | infinite negative =>
    cases negative with
    | false => exact ⟨by decide, readScalar?_name (by decide) (by decide) (by decide)⟩
    | true =>
      refine ⟨by decide, ?_⟩
      show readScalar? ('-' :: "inf".toList) = none
      rw [readScalar?_number (.inl rfl)]
      exact readNumber?_name (by decide) (by decide) true _
  | finite => cases hx

/-! ### Values of primitive types -/

/-- The values that primitive types have. -/
inductive IsScalar : Value → Prop where
  | bool (b : Bool) : IsScalar (.bool b)
  | text (t : String) : IsScalar (.text t)
  | int {n : Int} : isWritable n = true → IsScalar (.int n)
  | float {x : Binary64} : x = .nan ∨ (∃ negative, x.IsSigned negative) → IsScalar (.float x)

theorem readScalar?_source {v : Value} (h : IsScalar v)
    (hfinite : ∀ x, v = .float x → x.isFinite = true) : readScalar? v.source.toList = some v := by
  rw [Value.source, String.toList_ofList]
  cases h with
  | bool b => exact readScalar?_truth b
  | text t => exact readScalar?_quoted t
  | int hn => exact readScalar?_int hn
  | @float x hx =>
    rcases hx with rfl | ⟨negative, hx⟩
    · exact absurd (hfinite .nan rfl) (by decide)
    · exact readScalar?_float hx (hfinite x rfl)

end Grounding.Lexing

namespace Grounding

open Lexing Numeral

variable {p : Parameter} {q : Primitive} {v : Value} {literal : List Char}

namespace Primitive

theorem isScalar_default (q : Primitive) : IsScalar q.default := by
  rw [default]
  cases q.scalar with
  | text => exact .text _
  | character => exact .text _
  | boolean => exact .bool _
  | integral => exact .int (decide_eq_true (Nat.pow_pos (by decide)))
  | floating => exact .float (.inr ⟨false, Binary64.isSigned_zero false⟩)

theorem isScalar_of_literal? (h : q.ofLiteral? literal = some v) : IsScalar v := by
  rw [ofLiteral?] at h
  generalize q.scalar = k at h
  cases k with
  | text =>
    obtain rfl := Option.some.inj h
    exact .text _
  | character =>
    obtain rfl := Option.some.inj h
    exact .text _
  | boolean =>
    obtain ⟨b, -, rfl⟩ := Option.map_eq_some_iff.1 h
    exact .bool b
  | integral =>
    obtain ⟨n, hn, rfl⟩ := Option.map_eq_some_iff.1 h
    exact .int (isWritable_of_readInt? hn)
  | floating =>
    obtain ⟨x, hx, rfl⟩ := Option.map_eq_some_iff.1 h
    exact .float (Binary64.isSigned_of_readBinary64? hx)

theorem isScalar_of_literal (h : q.ofLiteral literal = .ok v) : IsScalar v := by
  rw [ofLiteral] at h
  split at h
  · obtain rfl := Except.ok.inj h
    exact isScalar_default q
  · split at h
    · next hx =>
      obtain rfl := Except.ok.inj h
      exact isScalar_of_literal? hx
    · cases h

theorem ofLiteral_eq_ok (hne : literal.isEmpty = false) (h : q.ofLiteral? literal = some v) :
    q.ofLiteral literal = .ok v := by
  rw [ofLiteral, hne, if_neg Bool.false_ne_true, h]

end Primitive

namespace Parameter

theorem evaluate_of_primitive (hbound : p.bound = true) (htype : p.type = q.name) :
    p.evaluate = .ok v ↔ q.ofLiteral (p.content.getD "").toList = .ok v := by
  have hparse : Descriptor.parse .bracket p.type = .ok (.primitive q) :=
    Outcome.mapError_eq_ok_iff.1 (descriptor_of_primitive htype)
  rw [evaluate, if_pos hbound, Synthesis.createText, Synthesis.readType, hparse]
  exact @Synthesis.create_primitive_eq_ok_iff Model.externals _ v q

/--
A bound parameter of a primitive type that has a value is written as a scalar literal, and the
literal stands for this value. The only values without a literal are the floating-point numbers that
are not finite: they are written as names, which stand for nothing.
-/
theorem literal_stands_for (hbound : p.bound = true) (htype : p.type = q.name)
    (hvalue : p.evaluate = .ok v) :
    ∃ a, p.operand = .ok a ∧
      ((∀ x, v = .float x → x.isFinite = true) → readScalar? a.text.toList = some v) ∧
      (∀ x, v = .float x → x.isFinite = false →
        a.text ∈ ["nan", "inf", "-inf"] ∧ readScalar? a.text.toList = none) := by
  have hoperand : p.operand = .ok (.constant v) := by
    rw [operand, hbound, isLiteralText_of_primitive htype, hvalue]
    rfl
  have hscalar : IsScalar v :=
    Primitive.isScalar_of_literal ((evaluate_of_primitive hbound htype).1 hvalue)
  refine ⟨_, hoperand, readScalar?_source hscalar, ?_⟩
  rintro x rfl hfinite
  have htext : (Operand.constant (.float x)).text = x.text := String.ofList_toList
  rw [htext]
  exact readScalar?_not_finite hfinite

/-- A number with a sign, a superfluous digit and an exponent, between blanks. -/
def rateParameter : Parameter := ⟨"rate", "Double", some " +2.50e-7 ", true⟩

/-- A number that is not finite. -/
def limitParameter : Parameter := ⟨"limit", "Float", some "-Infinity", true⟩

theorem evaluate_rateParameter :
    rateParameter.evaluate = .ok (.float (.ofDecimal false 25 (-8))) := by
  have hread : readBinary64? " +2.50e-7 " = some (.ofDecimal false 25 (-8)) := by decide +kernel
  rw [evaluate_of_primitive (q := .double) rfl rfl]
  exact Primitive.ofLiteral_eq_ok (by decide) (congrArg (Option.map Value.float) hread)

theorem evaluate_limitParameter :
    limitParameter.evaluate = .ok (.float (.infinite true)) := by
  have hread : readBinary64? "-Infinity" = some (.infinite true) := by decide +kernel
  rw [evaluate_of_primitive (q := .float) rfl rfl]
  exact Primitive.ofLiteral_eq_ok (by decide) (congrArg (Option.map Value.float) hread)

theorem literal_stands_for_samples :
    (rateParameter.bound = true ∧ rateParameter.type = Primitive.double.name ∧
      ∃ a, rateParameter.operand = .ok a ∧
        readScalar? a.text.toList = some (.float (.ofDecimal false 25 (-8)))) ∧
    (limitParameter.bound = true ∧ limitParameter.type = Primitive.float.name ∧
      ∃ a, limitParameter.operand = .ok a ∧ readScalar? a.text.toList = none) := by
  refine ⟨⟨rfl, rfl, ?_⟩, ⟨rfl, rfl, ?_⟩⟩
  · obtain ⟨a, ha, hstands, -⟩ :=
      literal_stands_for (q := .double) rfl rfl evaluate_rateParameter
    refine ⟨a, ha, hstands ?_⟩
    rintro x hx
    obtain rfl := Value.float.inj hx
    decide +kernel
  · obtain ⟨a, ha, -, hnone⟩ :=
      literal_stands_for (q := .float) rfl rfl evaluate_limitParameter
    exact ⟨a, ha, (hnone _ rfl rfl).2⟩

/-- An infinity is written as a name: no literal, and nothing that would be read back. -/
theorem infinity_has_no_literal :
    limitParameter.bound = true ∧ limitParameter.type = Primitive.float.name ∧
      limitParameter.evaluate = .ok (.float (.infinite true)) ∧
      limitParameter.operand = .ok (.constant (.float (.infinite true))) ∧
      (Operand.constant (.float (.infinite true))).text = "-inf" ∧
      readScalar? "-inf".toList = none := by
  refine ⟨rfl, rfl, evaluate_limitParameter, ?_, by decide, rfl⟩
  rw [operand, isLiteralText_of_primitive (q := .float) rfl, evaluate_limitParameter]
  rfl

end Parameter

end Grounding

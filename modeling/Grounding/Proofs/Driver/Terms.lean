import Grounding.Proofs.Driver.Dependency
import Grounding.Proofs.Driver.Likeness
import Grounding.Proofs.Driver.Step
import Grounding.Proofs.Number.Decimal
import Grounding.Proofs.Synthesis.Soundness
import Grounding.Proofs.Text.Naming

/-!
# The expressions of a driver can be read

Names, numbers and punctuation are code, and texts are quoted. So each expression that a driver
writes is read to its end, whatever the texts in it.
-/

namespace Grounding.Lexing

open Text

variable {w : List Char} {c : Char}

/-! ### Characters of code -/

/-- The characters that are no code: the marks, the number sign and the line ends. -/
def breakers : List Char := ['"', '\x27', '#', '\n', '\r']

theorem isInert_iff : isInert c = true ↔ c ∉ breakers := by
  simp [isInert, isMark, isLineEnd, breakers, and_assoc]

theorem isInert_of {p : Char → Bool} (hp : breakers.any p = false) (h : p c = true) :
    isInert c = true := by
  rw [isInert_iff]
  intro hc
  exact Bool.noConfusion (hp.symm.trans (List.any_eq_true.2 ⟨c, hc, h⟩))

theorem all_isInert_of {p : Char → Bool} (hp : breakers.any p = false) (h : w.all p = true) :
    w.all isInert = true := by
  rw [List.all_eq_true] at h ⊢
  exact fun c hc => isInert_of hp (h c hc)

/-! ### Names -/

/--
The characters of identifiers. Of those in ASCII these are the letters, the digits and the
underscore; any other character will do.
-/
def isNameChar (c : Char) : Bool := 128 ≤ c.toNat || c.isAlphanum || c == '_'

/-- One identifier, or several with a dot between them. -/
def IsDottedName (name : String) : Prop :=
  ∃ parts : List (List Char), (∀ part ∈ parts, part ≠ [] ∧ ∀ c ∈ part, isNameChar c = true) ∧
    parts ≠ [] ∧ name.toList = ['.'].intercalate parts

theorem isDottedName_of_all {name : String} (hne : name ≠ "")
    (h : name.toList.all isNameChar = true) : IsDottedName name := by
  refine ⟨[name.toList], ?_, nofun, List.intercalate_singleton.symm⟩
  rw [List.forall_mem_singleton]
  exact ⟨fun hnil => hne (String.toList_eq_nil_iff.1 hnil), List.all_eq_true.1 h⟩

theorem all_isInert_name {name : String} (h : IsDottedName name) :
    name.toList.all isInert = true := by
  obtain ⟨parts, hparts, -, hname⟩ := h
  have hchar : breakers.any isNameChar = false := by decide
  rw [hname]
  clear hname
  induction parts with
  | nil => rfl
  | cons part parts ih =>
    rw [List.forall_mem_cons] at hparts
    have hpart := all_isInert_of hchar (List.all_eq_true.2 hparts.1.2)
    rcases parts with _ | ⟨next, rest⟩
    · rwa [List.intercalate_singleton]
    · rw [List.intercalate_cons_cons, List.all_append, List.all_append, hpart, ih hparts.2]
      rfl

theorem all_isDigit_toDigits (n : Nat) : (Nat.toDigits 10 n).all Char.isDigit = true :=
  List.all_eq_true.2 fun _ => Numeral.isDigit_toDigits

theorem all_isDigit_nat (n : Nat) : (toString n).toList.all Char.isDigit = true := by
  rw [show (toString n).toList = Nat.toDigits 10 n from Nat.toList_repr]
  exact all_isDigit_toDigits n

theorem all_isInert_digits (h : w.all Char.isDigit = true) : w.all isInert = true :=
  all_isInert_of (by decide) h

theorem all_isInert_nat (n : Nat) : (toString n).toList.all isInert = true :=
  all_isInert_digits (all_isDigit_nat n)

theorem isWord_of_isDigit (h : c.isDigit = true) : isWord c = true := by
  rw [isWord, isNumeral, isDigit, Numeral.isDecimalDigit_of_isDigit h, Bool.true_or, Bool.true_or,
    Bool.or_true, Bool.true_or]

theorem all_isWord_variable (v : Variable) : v.text.toList.all isWord = true := by
  have hnumbered : ∀ {name : List Char} {n : Nat}, name.all isWord = true →
      (name ++ (toString n).toList).all isWord = true := fun {_ n} hname => by
    have hnumber := all_isDigit_nat n
    rw [List.all_append, hname, Bool.true_and, List.all_eq_true]
    exact fun c hc => isWord_of_isDigit (List.all_eq_true.1 hnumber c hc)
  cases v with
  | actual n | expect n | response n =>
    rw [Variable.text, String.toList_append]
    exact hnumbered (by decide)
  | receiver name n =>
    rw [Variable.text, String.toList_append]
    exact hnumbered (List.all_eq_true.2 fun _ => isWord_of_mem_identifier)

theorem all_isInert_variable (v : Variable) : v.text.toList.all isInert = true :=
  all_isInert_of (by decide) (all_isWord_variable v)

theorem variable_ne_nil (v : Variable) : v.text.toList ≠ [] := by
  have hnumber : ∀ n : Nat, (toString n).toList ≠ [] := fun n => by
    rw [show (toString n).toList = Nat.toDigits 10 n from Nat.toList_repr]
    exact Nat.toDigits_ne_nil
  cases v <;> rw [Variable.text, String.toList_append] <;>
    exact List.append_ne_nil_of_right_ne_nil _ (hnumber _)

theorem head?_variable_append (v : Variable) (w : List Char) :
    (v.text.toList ++ w).head?.any (· != ' ') = true := by
  have hword := all_isWord_variable v
  cases htext : v.text.toList with
  | nil => exact absurd htext (variable_ne_nil v)
  | cons c rest =>
    have hne : c ≠ ' ' := by
      rintro rfl
      rw [htext, List.all_cons, show isWord ' ' = false by decide] at hword
      cases hword
    simpa using hne

/-- The external types in a type have names. -/
def Names (d : Descriptor) : Prop := ∀ name, .external name ∈ d.nodes → IsDottedName name

theorem all_isInert_hostType {d : Descriptor} (h : Names d) :
    d.hostType.toList.all isInert = true := by
  induction d with
  | primitive p => cases p <;> decide
  | external name => exact all_isInert_name (h name (List.mem_singleton_self _))
  | list e ih | set e ih =>
    have helement := ih fun name hname => h name (List.mem_cons_of_mem _ hname)
    simp only [Descriptor.hostType, String.toList_append, List.all_append, helement]
    decide
  | map k v ihk ihv =>
    have hkey := ihk fun name hname =>
      h name (List.mem_cons_of_mem _ (List.mem_append_left _ hname))
    have hvalue := ihv fun name hname =>
      h name (List.mem_cons_of_mem _ (List.mem_append_right _ hname))
    simp only [Descriptor.hostType, String.toList_append, List.all_append, hkey, hvalue]
    decide
  | pair a b =>
    show "Pair".toList.all isInert = true
    decide

/-! ### Values -/

def isFloatChar (c : Char) : Bool := c.isAlphanum || c == '.' || c == '+' || c == '-'

theorem all_isFloatChar_digits (h : w.all Char.isDigit = true) : w.all isFloatChar = true := by
  rw [List.all_eq_true] at h ⊢
  intro c hc
  simp [isFloatChar, Char.isAlphanum, h c hc]

theorem all_isDigit_trimZeros (h : w.all Char.isDigit = true) :
    (Binary64.trimZeros w).all Char.isDigit = true := by
  rw [List.all_eq_true] at h ⊢
  intro c hc
  rw [Binary64.trimZeros, List.mem_reverse] at hc
  exact h c (List.mem_reverse.1 ((List.dropWhile_sublist _).subset hc))

theorem all_isDigit_shortest (x : Binary64) (num den : Nat) :
    (Binary64.shortestOfRatio x num den).digits.all Char.isDigit = true := by
  rw [Binary64.shortestOfRatio]
  split
  · exact all_isDigit_trimZeros (all_isDigit_nat _)
  · decide

theorem all_isFloatChar_exponentText (e : Int) :
    (Binary64.exponentText e).all isFloatChar = true := by
  have hdigits := all_isFloatChar_digits (all_isDigit_nat e.natAbs)
  have hzero : isFloatChar '0' = true := by decide
  have hsign : isFloatChar (if e < 0 then '-' else '+') = true := by
    split <;> decide
  rw [Binary64.exponentText, List.all_cons, hsign, Bool.true_and]
  split
  · rw [List.all_cons, hzero, hdigits]
    rfl
  · exact hdigits

theorem all_isFloatChar_decimal {d : Binary64.Decimal} (h : d.digits.all Char.isDigit = true) :
    d.text.all isFloatChar = true := by
  have hdigits := all_isFloatChar_digits h
  have htake : ∀ n, (d.digits.take n).all isFloatChar = true := fun n =>
    List.all_eq_true.2 fun c hc => List.all_eq_true.1 hdigits c (List.mem_of_mem_take hc)
  have hdrop : ∀ n, (d.digits.drop n).all isFloatChar = true := fun n =>
    List.all_eq_true.2 fun c hc => List.all_eq_true.1 hdigits c (List.mem_of_mem_drop hc)
  have hzeros : ∀ n, (List.replicate n '0').all isFloatChar = true := fun n => by
    rw [List.all_replicate]
    split <;> decide
  have hpoint : isFloatChar '.' = true := by decide
  have hmark : isFloatChar 'e' = true := by decide
  rw [Binary64.Decimal.text]
  split
  · have hfraction : (if (d.digits.drop 1).isEmpty then [] else '.' :: d.digits.drop 1).all
        isFloatChar = true := by
      split
      · rfl
      · rw [List.all_cons, hpoint, hdrop]
        rfl
    rw [List.all_append, List.all_append, htake, hfraction, List.all_cons, hmark,
      all_isFloatChar_exponentText]
    rfl
  split
  · rw [List.all_append, List.all_append, hzeros, hdigits]
    decide
  dsimp only
  split
  · rw [List.all_append, List.all_append, hdigits, hzeros]
    decide
  · rw [List.all_append, List.all_cons, htake, hpoint, hdrop]
    rfl

theorem all_isInert_float (x : Binary64) : x.text.toList.all isInert = true := by
  have hfloat : x.text.toList.all isFloatChar = true := by
    cases x with
    | nan => decide
    | infinite negative => cases negative <;> decide
    | finite negative m e =>
      have hdigits : ∀ num den, (if m == 0 then ['0', '.', '0']
          else (Binary64.shortestOfRatio (.finite false m e) num den).text).all isFloatChar =
            true := by
        intro num den
        split
        · decide
        · exact all_isFloatChar_decimal (all_isDigit_shortest _ _ _)
      have hminus : isFloatChar '-' = true := by decide
      rw [Binary64.text, String.toList_ofList]
      split
      · rw [List.all_cons, hminus, Bool.true_and]
        exact hdigits _ _
      · exact hdigits _ _
  exact all_isInert_of (by decide) hfloat

theorem all_isInert_int (n : Int) : (toString n).toList.all isInert = true := by
  have hdigits := all_isInert_digits (all_isDigit_toDigits n.natAbs)
  rw [Numeral.toList_toString, List.all_append, hdigits, Bool.and_true]
  split <;> decide

theorem Alike.commas {parts : List (List Char)} (h : ∀ p ∈ parts, Alike p p) :
    Alike ([',', ' '].intercalate parts) ([',', ' '].intercalate parts) := by
  induction parts with
  | nil => exact .inert rfl
  | cons p parts ih =>
    rw [List.forall_mem_cons] at h
    rcases parts with _ | ⟨q, rest⟩
    · rw [List.intercalate_singleton]
      exact h.1
    · rw [List.intercalate_cons_cons, List.append_assoc]
      exact h.1.between (by decide) nofun (ih h.2)

theorem Alike.enclosed {a z : List Char} (ha : a.all isInert = true) (hz : z.all isInert = true)
    (h : Alike w w) : Alike (a ++ (w ++ z)) (a ++ (w ++ z)) :=
  (h.before hz).after ha

theorem itemSources_eq (xs : List Value) : Value.itemSources xs = xs.map Value.sourceChars := by
  induction xs with
  | nil => rfl
  | cons x xs ih => rw [Value.itemSources, ih, List.map_cons]

theorem entrySources_eq (es : List (Value × Value)) : Value.entrySources es =
    es.map fun e => e.1.sourceChars ++ ':' :: ' ' :: e.2.sourceChars := by
  induction es with
  | nil => rfl
  | cons e es ih => rw [Value.entrySources, ih, List.map_cons]

theorem alike_scalar {p : Primitive} {x : Value} (h : p.Admits x) :
    Alike x.sourceChars x.sourceChars := by
  unfold Primitive.Admits at h
  generalize p.scalar = k at h
  cases h with
  | text s | character c => exact .quoted _ _
  | boolean b => cases b <;> exact .inert (by decide)
  | integral n => exact .inert (all_isInert_int n)
  | floating y => exact .inert (all_isInert_float y)
  | nan mark =>
    have hnan : Binary64.nan.text.toList.all isInert = true := by decide
    exact .inert hnan

theorem alike_callSource {name : String} (hname : name.toList.all isInert = true)
    {args : List (List Char)} (h : ∀ arg ∈ args, Alike arg arg) :
    Alike (Value.callSource name args) (Value.callSource name args) := by
  have hopen : (name.toList ++ ['(']).all isInert = true := by
    rw [List.all_append, hname]
    rfl
  have hcall : Value.callSource name args =
      (name.toList ++ ['(']) ++ (Value.commaJoin args ++ [')']) := by
    simp [Value.callSource]
  rw [hcall]
  exact (Alike.commas h).enclosed hopen (by decide)

theorem alike_argSource {name : String} (hname : name.toList.all isInert = true) {value : List Char}
    (h : Alike value value) : Alike (Value.argSource name value) (Value.argSource name value) := by
  have harg := h.after (w := name.toList ++ ['=']) (by rw [List.all_append, hname]; rfl)
  rwa [List.append_assoc] at harg

theorem alike_source {x : Value} {d : Descriptor} (h : x.Inhabits d) :
    Alike x.sourceChars x.sourceChars := by
  induction h with
  | primitive hp => exact alike_scalar hp
  | entity name type =>
    rw [Value.sourceChars]
    refine alike_callSource (by decide) ?_
    rw [List.forall_mem_singleton]
    exact alike_argSource (by decide) (.quoted _ _)
  | @list xs e _ ih =>
    rw [Value.sourceChars, itemSources_eq]
    exact (Alike.commas (List.forall_mem_map.2 ih)).enclosed (a := ['[']) (by decide) (by decide)
  | @set xs e _ _ ih =>
    rw [Value.sourceChars, itemSources_eq]
    cases hxs : xs.map Value.sourceChars with
    | nil => exact .inert (by decide)
    | cons y ys =>
      rw [Value.setSource, ← hxs]
      · have hitems := Alike.commas (List.forall_mem_map.2 ih)
        exact hitems.enclosed (a := ['\x7b']) (by decide) (by decide)
      · exact nofun
  | @map es k v _ _ _ ihk ihv =>
    rw [Value.sourceChars, entrySources_eq]
    have hentries := Alike.commas (List.forall_mem_map.2 fun e he =>
      (ihk e he).between (w := [':', ' ']) (by decide) (by decide) (ihv e he))
    exact hentries.enclosed (a := ['\x7b']) (by decide) (by decide)
  | @pair x y a b _ _ ihx ihy =>
    rw [Value.sourceChars]
    refine alike_callSource (by decide) ?_
    rw [List.forall_mem_cons, List.forall_mem_singleton]
    exact ⟨alike_argSource (by decide) ihx, alike_argSource (by decide) ihy⟩

/-! ### Operands and calls -/

theorem alike_operand {p : Parameter} {a : Operand} (h : p.operand = .ok a) :
    Alike a.text.toList a.text.toList := by
  rw [Parameter.operand] at h
  split at h
  · cases h
    exact .inert (w := "None".toList) (by decide)
  next hbound =>
  split at h
  · obtain ⟨x, hx, rfl⟩ := Outcome.exceptMap_eq_ok_iff.1 h
    have hbound : p.bound = true := by simpa using hbound
    rw [Parameter.evaluate, if_pos hbound, Synthesis.createText] at hx
    obtain ⟨d, -, hcreate⟩ := Outcome.bind_eq_ok_iff.1 hx
    have hsource := alike_source (Synthesis.inhabits_of_create hcreate)
    show Alike x.source.toList x.source.toList
    rwa [Value.source, String.toList_ofList]
  · obtain ⟨d, -, rfl⟩ := Outcome.exceptMap_eq_ok_iff.1 h
    show Alike ("self.factory.create(" ++ quoted _ ++ ", " ++ quoted _ ++ ")").toList
      ("self.factory.create(" ++ quoted _ ++ ", " ++ quoted _ ++ ")").toList
    simp only [String.toList_append, List.append_assoc]
    refine .after (by decide) (.between (.quoted _ _) (by decide) nofun ?_)
    exact .before (.quoted _ _) (by decide)

theorem alike_commaText {as : List Operand} (h : ∀ a ∈ as, Alike a.text.toList a.text.toList) :
    Alike (commaText (as.map Operand.text)).toList (commaText (as.map Operand.text)).toList := by
  rw [commaText, String.toList_intercalate, List.map_map]
  exact .commas (List.forall_mem_map.2 h)

theorem alike_operands {ps : List Parameter} {as : List Operand}
    (h : List.Forall₂ (fun p a => p.operand = .ok a) ps as) :
    ∀ a ∈ as, Alike a.text.toList a.text.toList := fun a ha => by
  obtain ⟨p, -, hp⟩ := Itemwise.exists_mem_of_forall₂ h a ha
  exact alike_operand hp

theorem exists_call_rest {b : Backend} {o : Operation} {c : Call} (hname : IsDottedName o.name)
    (h : b.Invokes o c) :
    ∃ rest, c.text.toList = "self.".toList ++ rest ∧ AlikeTo (.code ')') rest rest := by
  cases h with
  | @direct _ args _ hargs =>
    refine ⟨"system.".toList ++ (o.name.toList ++ ("(".toList ++
      ((commaText (args.map Operand.text)).toList ++ ")".toList))), ?_, ?_⟩
    · simp only [Call.text_direct, String.toList_append, List.append_assoc]
      rfl
    · refine .after (by decide) (.after (all_isInert_name hname) (.after (by decide) ?_))
      exact .of_alike (alike_commaText (alike_operands hargs)) (by decide) (by decide)
  | @path literals _ =>
    refine ⟨"call_method(".toList ++
      ((quoted (Call.pathText o.name literals)).toList ++ ")".toList), ?_, ?_⟩
    · simp only [Call.text_path, String.toList_append, List.append_assoc]
      rfl
    · exact .after (by decide) (.of_alike (.quoted _ _) (by decide) (by decide))

theorem alikeTo_call {b : Backend} {o : Operation} {c : Call} (hname : IsDottedName o.name)
    (h : b.Invokes o c) : AlikeTo (.code ')') c.text.toList c.text.toList := by
  obtain ⟨rest, htext, hrest⟩ := exists_call_rest hname h
  rw [htext]
  exact hrest.after (by decide)

theorem alikeTo_callItems {b : Backend} {o : Operation} {c : Call} (hname : IsDottedName o.name)
    (h : b.Invokes o c) :
    AlikeTo (.code ')') (Assigned.callItems c).text.toList (Assigned.callItems c).text.toList := by
  show AlikeTo (.code ')') ("list(" ++ c.text ++ ")").toList ("list(" ++ c.text ++ ")").toList
  simp only [String.toList_append, List.append_assoc]
  exact .after (by decide) (.of_alike (alikeTo_call hname h).alike (by decide) (by decide))

theorem alikeTo_list {ps : List Parameter} {as : List Operand}
    (h : List.Forall₂ (fun p a => p.operand = .ok a) ps as) :
    AlikeTo (.code ']') (Assigned.list as).text.toList (Assigned.list as).text.toList := by
  show AlikeTo (.code ']') ("[" ++ commaText (as.map Operand.text) ++ "]").toList
    ("[" ++ commaText (as.map Operand.text) ++ "]").toList
  simp only [String.toList_append, List.append_assoc]
  refine .after (by decide) (.of_alike (alike_commaText (alike_operands h)) (by decide) ?_)
  decide

/-! ### Responses -/

theorem Decoder.text_factory (d : Descriptor) (v : Variable) :
    (Decoder.factory d).text v =
      "self.factory.decode_json(" ++ v.text ++ ", " ++ quoted (d.render .angle) ++ ")" := rfl

theorem Decoder.text_adapter (d : Descriptor) (v : Variable) :
    (Decoder.adapter d).text v =
      "TypeAdapter(" ++ d.hostType ++ ").validate_json(" ++ v.text ++ ")" := rfl

theorem Decoder.text_listAdapter (d : Descriptor) (v : Variable) :
    (Decoder.listAdapter d).text v =
      "TypeAdapter(list[" ++ d.hostType ++ "]).validate_json(" ++ v.text ++ ")" := rfl

theorem alikeTo_factory (d : Descriptor) (v : Variable) :
    AlikeTo (.code ')') ((Decoder.factory d).text v).toList
      ((Decoder.factory d).text v).toList := by
  simp only [Decoder.text_factory, String.toList_append, List.append_assoc]
  refine .after (by decide) (.after (all_isInert_variable v) (.after (by decide) ?_))
  exact .of_alike (.quoted _ _) (by decide) (by decide)

theorem alikeTo_decoder {d : Descriptor} (h : Names d) (v : Variable) :
    AlikeTo (.code ')') ((Backend.decoder d).text v).toList
      ((Backend.decoder d).text v).toList := by
  rw [Backend.decoder]
  split
  · exact alikeTo_factory d v
  · simp only [Decoder.text_adapter, String.toList_append, List.append_assoc]
    refine .after (by decide) (.after (all_isInert_hostType h) (.after (by decide) ?_))
    exact .after (all_isInert_variable v) (.inert (by decide) (by decide))

theorem alikeTo_listDecoder {d : Descriptor} (h : Names d) (v : Variable) :
    AlikeTo (.code ')') ((Backend.listDecoder d).text v).toList
      ((Backend.listDecoder d).text v).toList := by
  rw [Backend.listDecoder]
  split
  · exact alikeTo_factory (.list d) v
  · simp only [Decoder.text_listAdapter, String.toList_append, List.append_assoc]
    refine .after (by decide) (.after (all_isInert_hostType h) (.after (by decide) ?_))
    exact .after (all_isInert_variable v) (.inert (by decide) (by decide))

/-! ### Statements -/

/-- Statements that are alike, such as two with other texts in their literals. -/
def AlikeStatement (s s' : Statement) : Prop :=
  AlikeLine s.text.toList s'.text.toList (some false)

theorem alikeLine_of_parenthesis {u v : List Char} (hw : w.all isInert = true)
    (hhead : w.head?.any (· != ' ') = true) (h : AlikeTo (.code ')') u v) :
    AlikeLine (w ++ u) (w ++ v) (some false) :=
  alikeLine_of_alikeTo hw hhead h (by decide)

theorem alikeStatement_invoke {b : Backend} {o : Operation} {c : Call}
    (hname : IsDottedName o.name) (h : b.Invokes o c) :
    AlikeStatement (.invoke c) (.invoke c) := by
  obtain ⟨rest, htext, hrest⟩ := exists_call_rest hname h
  show AlikeLine c.text.toList c.text.toList (some false)
  rw [htext]
  exact alikeLine_of_parenthesis (by decide) (by decide) hrest

theorem alikeStatement_assign {v : Variable} {type : Option Descriptor} {value : Assigned}
    {last : Token} (htype : ∀ d ∈ type, Names d)
    (h : AlikeTo last value.text.toList value.text.toList) (hlast : last.isVisible = true)
    (hcolon : last ≠ .code ':') :
    AlikeStatement (.assign v type value) (.assign v type value) := by
  have hline : ∀ mark : String, mark.toList.all isInert = true →
      AlikeLine (v.text ++ mark ++ " = " ++ value.text).toList
        (v.text ++ mark ++ " = " ++ value.text).toList (some false) := by
    intro mark hmark
    have hinert : (v.text.toList ++ (mark.toList ++ " = ".toList)).all isInert = true := by
      rw [List.all_append, List.all_append, all_isInert_variable, hmark]
      decide
    have hread := alikeLine_of_alikeTo hinert (head?_variable_append v _) h hlast
    rw [beq_eq_false_iff_ne.2 hcolon] at hread
    simpa only [String.toList_append, List.append_assoc] using hread
  cases type with
  | none => exact hline "" (by decide)
  | some d =>
    refine hline (": " ++ d.hostType) ?_
    rw [String.toList_append, List.all_append, all_isInert_hostType (htype d rfl)]
    decide

theorem alikeStatement_assertEqual {expected : Operand} (v : Variable)
    (h : Alike expected.text.toList expected.text.toList) :
    AlikeStatement (.assertEqual expected v) (.assertEqual expected v) := by
  show AlikeLine ("self.assertEqual(" ++ expected.text ++ ", " ++ v.text ++ ")").toList
    ("self.assertEqual(" ++ expected.text ++ ", " ++ v.text ++ ")").toList (some false)
  simp only [String.toList_append, List.append_assoc]
  refine alikeLine_of_parenthesis (by decide) (by decide) ?_
  refine .between h (by decide) (by decide) (.after (all_isInert_variable v) ?_)
  exact .inert (by decide) (by decide)

theorem alikeStatement_assertSequenceEqual (v v' : Variable) :
    AlikeStatement (.assertSequenceEqual v v') (.assertSequenceEqual v v') := by
  show AlikeLine ("self.assertSequenceEqual(" ++ v.text ++ ", " ++ v'.text ++ ")").toList
    ("self.assertSequenceEqual(" ++ v.text ++ ", " ++ v'.text ++ ")").toList (some false)
  simp only [String.toList_append, List.append_assoc]
  refine alikeLine_of_parenthesis (by decide) (by decide) ?_
  refine .after (all_isInert_variable v) (.after (by decide) ?_)
  exact .after (all_isInert_variable v') (.inert (by decide) (by decide))

theorem alikeStatement_assertNone (v : Variable) :
    AlikeStatement (.assertNone v) (.assertNone v) := by
  show AlikeLine ("self.assertIsNone(" ++ v.text ++ ")").toList
    ("self.assertIsNone(" ++ v.text ++ ")").toList (some false)
  simp only [String.toList_append, List.append_assoc]
  refine alikeLine_of_parenthesis (by decide) (by decide) ?_
  exact .after (all_isInert_variable v) (.inert (by decide) (by decide))

/-! ### Statements with free text -/

theorem alikeStatement_assertMessage (s t : String) :
    AlikeStatement (.assertMessage s) (.assertMessage t) := by
  show AlikeLine ("self.assertIn(" ++ quoted s ++ ", str(ex))").toList
    ("self.assertIn(" ++ quoted t ++ ", str(ex))").toList (some false)
  simp only [String.toList_append, List.append_assoc]
  refine alikeLine_of_parenthesis (by decide) (by decide) ?_
  exact .of_alike (.quoted s t) (by decide) (by decide)

theorem alikeStatement_assertReport (s t : String) {getter : String}
    (hgetter : getter.toList.all isInert = true) :
    AlikeStatement (.assertReport s getter) (.assertReport t getter) := by
  show AlikeLine ("self.assertEqual(" ++ quoted s ++ ", self." ++ getter ++ "())").toList
    ("self.assertEqual(" ++ quoted t ++ ", self." ++ getter ++ "())").toList (some false)
  simp only [String.toList_append, List.append_assoc]
  refine alikeLine_of_parenthesis (by decide) (by decide) ?_
  refine .between (.quoted s t) (by decide) (by decide) (.after hgetter ?_)
  exact .inert (by decide) (by decide)

theorem alikeStatement_fail (s t : String) : AlikeStatement (.fail s) (.fail t) := by
  show AlikeLine ("self.fail(" ++ quoted s ++ ")").toList ("self.fail(" ++ quoted t ++ ")").toList
    (some false)
  simp only [String.toList_append, List.append_assoc]
  refine alikeLine_of_parenthesis (by decide) (by decide) ?_
  exact .of_alike (.quoted s t) (by decide) (by decide)

theorem alikeLine_stepComment {what : String} (h : what.toList.all isInert = true) (step : Nat) :
    AlikeLine (Backend.stepComment what step).text.toList
      (Backend.stepComment what step).text.toList none := by
  have hline : ∀ {w : List Char}, w.all isInert = true →
      w.all (fun c => !isLineEnd c) = true := fun hw => by
    rw [List.all_eq_true] at hw ⊢
    intro c hc
    have hinert := hw c hc
    rw [isInert, Bool.and_eq_true] at hinert
    exact hinert.2
  have htext : (Backend.stepComment what step).text.toList = '#' ::
      (" Verify ".toList ++ (what.toList ++ (" step #".toList ++ (toString step).toList))) := by
    show ("# " ++ ("Verify " ++ what ++ " step #" ++ toString step)).toList = _
    simp only [String.toList_append, List.append_assoc]
    rfl
  rw [htext]
  refine alikeLine_comment ?_
  rw [List.all_append, List.all_append, List.all_append, hline h, hline (all_isInert_nat step)]
  decide

end Grounding.Lexing

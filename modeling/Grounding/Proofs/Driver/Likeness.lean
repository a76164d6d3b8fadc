import Grounding.Proofs.Driver.Blocks
import Grounding.Proofs.Driver.Code
import Grounding.Proofs.Driver.Emission

/-!
# Code that is alike outside literals

Two texts are alike if they have the same tokens, so that they differ in literals only. Lines that
are alike make up code that is alike, and the lines of it are nested. What is alike with itself is
code that can be read, and is divided into blocks.
-/

namespace Grounding.Lexing

open Layout

variable {u u' v v' w : List Char} {c : Char} {ts ts' : List Token}

/-! ### Parts of a line -/

/-- Parts of a line that both have these tokens. They may end in literals, but not within them. -/
def AlikeAs (ts : List Token) (u v : List Char) : Prop :=
  (∃ m, Reads .code u m ts ∧ m.IsOutside) ∧ (∃ m, Reads .code v m ts ∧ m.IsOutside) ∧
    ts.all (fun t => !t.endsLine) = true

/-- Parts of a line that have the same tokens. -/
def Alike (u v : List Char) : Prop := ∃ ts, AlikeAs ts u v

/-- Parts of a line that have the same tokens, and this one last. -/
def AlikeTo (last : Token) (u v : List Char) : Prop := ∃ ts, AlikeAs (ts ++ [last]) u v

theorem endsLine_of_isInert (h : isInert c = true) : Token.endsLine (.code c) = false := by
  rw [isInert, Bool.and_eq_true, Bool.not_eq_true'] at h
  exact h.2

theorem AlikeAs.inert (h : w.all isInert = true) : AlikeAs (w.map .code) w w := by
  refine ⟨⟨_, reads_inert h, .code⟩, ⟨_, reads_inert h, .code⟩, ?_⟩
  rw [List.all_map, List.all_eq_true] at *
  intro c hc
  rw [Function.comp_apply, endsLine_of_isInert (h c hc), Bool.not_false]

theorem AlikeAs.quoted (s t : String) :
    AlikeAs [.literal] (Text.quoted s).toList (Text.quoted t).toList := by
  obtain ⟨m, hm, hs⟩ := reads_quoted s
  obtain ⟨m', hm', ht⟩ := reads_quoted t
  exact ⟨⟨m, hs, hm⟩, ⟨m', ht, hm'⟩, rfl⟩

theorem AlikeAs.append (h : AlikeAs ts u v) (hc : isInert c = true)
    (h' : AlikeAs ts' (c :: u') (c :: v')) :
    AlikeAs (ts ++ ts') (u ++ c :: u') (v ++ c :: v') := by
  have hjoin : ∀ {u u' : List Char}, (∃ m, Reads .code u m ts ∧ m.IsOutside) →
      (∃ m, Reads .code (c :: u') m ts' ∧ m.IsOutside) →
      ∃ m, Reads .code (u ++ c :: u') m (ts ++ ts') ∧ m.IsOutside := by
    rintro u u' ⟨m, hu, hm⟩ ⟨m', hu', hm'⟩
    exact ⟨m', hu.append (hm.reads (isMark_of_isInert hc) hu'), hm'⟩
  refine ⟨hjoin h.1 h'.1, hjoin h.2.1 h'.2.1, ?_⟩
  rw [List.all_append, h.2.2, h'.2.2, Bool.and_true]

theorem AlikeAs.after (hw : w.all isInert = true) (h : AlikeAs ts u v) :
    AlikeAs (w.map .code ++ ts) (w ++ u) (w ++ v) := by
  have hjoin : ∀ {u : List Char}, (∃ m, Reads .code u m ts ∧ m.IsOutside) →
      ∃ m, Reads .code (w ++ u) m (w.map .code ++ ts) ∧ m.IsOutside := by
    rintro u ⟨m, hu, hm⟩
    exact ⟨m, (reads_inert hw).append hu, hm⟩
  refine ⟨hjoin h.1, hjoin h.2.1, ?_⟩
  rw [List.all_append, (AlikeAs.inert hw).2.2, h.2.2, Bool.and_true]

theorem AlikeAs.before (h : AlikeAs ts u v) (hw : w.all isInert = true) :
    AlikeAs (ts ++ w.map .code) (u ++ w) (v ++ w) := by
  cases w with
  | nil => simpa only [List.append_nil, List.map_nil] using h
  | cons c w => exact h.append (List.all_eq_true.1 hw c List.mem_cons_self) (.inert hw)

namespace Alike

theorem inert (h : w.all isInert = true) : Alike w w := ⟨_, .inert h⟩

theorem quoted (s t : String) : Alike (Text.quoted s).toList (Text.quoted t).toList :=
  ⟨_, .quoted s t⟩

theorem after (hw : w.all isInert = true) (h : Alike u v) : Alike (w ++ u) (w ++ v) := by
  obtain ⟨ts, h⟩ := h
  exact ⟨_, h.after hw⟩

theorem before (h : Alike u v) (hw : w.all isInert = true) : Alike (u ++ w) (v ++ w) := by
  obtain ⟨ts, h⟩ := h
  exact ⟨_, h.before hw⟩

theorem between (h : Alike u v) (hw : w.all isInert = true) (hne : w ≠ []) (h' : Alike u' v') :
    Alike (u ++ (w ++ u')) (v ++ (w ++ v')) := by
  obtain ⟨ts, h⟩ := h
  obtain ⟨ts', h'⟩ := h'
  cases w with
  | nil => exact absurd rfl hne
  | cons c w => exact ⟨_, h.append (List.all_eq_true.1 hw c List.mem_cons_self) (h'.after hw)⟩

end Alike

namespace AlikeTo

variable {last : Token}

theorem alike (h : AlikeTo last u v) : Alike u v := by
  obtain ⟨ts, h⟩ := h
  exact ⟨_, h⟩

theorem quoted (s t : String) :
    AlikeTo .literal (Text.quoted s).toList (Text.quoted t).toList :=
  ⟨[], .quoted s t⟩

theorem of_alike (h : Alike u v) (hw : w.all isInert = true) (hlast : w.getLast? = some c) :
    AlikeTo (.code c) (u ++ w) (v ++ w) := by
  obtain ⟨ts, h⟩ := h
  obtain ⟨w, rfl⟩ := List.getLast?_eq_some_iff.1 hlast
  have hread := h.before hw
  rw [List.map_append, ← List.append_assoc] at hread
  exact ⟨_, hread⟩

theorem inert (hw : w.all isInert = true) (hlast : w.getLast? = some c) :
    AlikeTo (.code c) w w :=
  of_alike (Alike.inert (w := []) rfl) hw hlast

theorem after (hw : w.all isInert = true) (h : AlikeTo last u v) :
    AlikeTo last (w ++ u) (w ++ v) := by
  obtain ⟨ts, h⟩ := h
  have hread := h.after hw
  rw [← List.append_assoc] at hread
  exact ⟨_, hread⟩

theorem between (h : Alike u v) (hw : w.all isInert = true) (hne : w ≠ [])
    (h' : AlikeTo last u' v') : AlikeTo last (u ++ (w ++ u')) (v ++ (w ++ v')) := by
  obtain ⟨ts, h⟩ := h
  obtain ⟨ts', h'⟩ := h'.after hw
  cases w with
  | nil => exact absurd rfl hne
  | cons c w =>
    have hread := h.append (List.all_eq_true.1 hw c List.mem_cons_self) h'
    rw [← List.append_assoc] at hread
    exact ⟨_, hread⟩

end AlikeTo

/-! ### Lines -/

/-- A line without its indentation has these tokens. -/
def ReadsLine (line : List Char) (ts : List Token) : Prop :=
  line ≠ [] ∧ Reads .code (line ++ ['\n']) .code (ts ++ [.code '\n'])

/-- Whether the tokens of a line are those of a header, or of a statement; a comment has neither. -/
def opens? (ts : List Token) : Option Bool :=
  (ts.filter Token.isVisible).getLast?.map fun last => last == .code ':'

def IsLine (ts : List Token) : Prop :=
  ts.head?.all (fun t => !t.isBlank) = true ∧ ts.all (fun t => !t.endsLine) = true

/-- Lines that have the same tokens: of a header, of a statement, or of a comment. -/
def AlikeLine (u v : List Char) (kind : Option Bool) : Prop :=
  ∃ ts, ReadsLine u ts ∧ ReadsLine v ts ∧ IsLine ts ∧ opens? ts = kind

theorem Mode.IsOutside.reads_lineEnd {m : Mode} (hm : m.IsOutside) :
    Reads m ['\n'] .code [.code '\n'] :=
  hm.reads (by decide) (by decide)

theorem opens?_append_singleton {t : Token} (h : t.isVisible = true) (ts : List Token) :
    opens? (ts ++ [t]) = some (t == .code ':') := by
  rw [opens?, List.filter_append, List.filter_singleton, h, cond_true, List.getLast?_concat]
  rfl

theorem alikeLine_of_alikeTo {last : Token} (hw : w.all isInert = true)
    (hhead : w.head?.any (· != ' ') = true) (h : AlikeTo last u v) (hlast : last.isVisible = true) :
    AlikeLine (w ++ u) (w ++ v) (some (last == .code ':')) := by
  obtain ⟨ts, hboth⟩ := h
  obtain ⟨hu, hv, hends⟩ := hboth.after hw
  cases w with
  | nil => cases hhead
  | cons c w =>
    have hline : ∀ {u : List Char}, (∃ m, Reads .code (c :: w ++ u) m
        ((c :: w).map .code ++ (ts ++ [last])) ∧ m.IsOutside) →
        ReadsLine (c :: w ++ u) ((c :: w).map .code ++ (ts ++ [last])) := by
      rintro u ⟨m, hread, hm⟩
      exact ⟨nofun, hread.append hm.reads_lineEnd⟩
    refine ⟨_, hline hu, hline hv, ⟨?_, hends⟩, ?_⟩
    · simpa [Token.isBlank] using hhead
    · rw [← List.append_assoc]
      exact opens?_append_singleton hlast _

theorem reads_comment (h : w.all (fun c => !isLineEnd c) = true) :
    Reads .comment w .comment (w.map .comment) := by
  induction w with
  | nil => exact .nil
  | cons c w ih =>
    rw [List.all_cons, Bool.and_eq_true, Bool.not_eq_true'] at h
    have hnext : Mode.comment.next c = .comment := by simp [Mode.next, h.1]
    have hemitted : Mode.comment.emitted c = [.comment c] := by simp [Mode.emitted, h.1]
    exact .cons hnext hemitted (ih h.2)

theorem alikeLine_comment (h : w.all (fun c => !isLineEnd c) = true) :
    AlikeLine ('#' :: w) ('#' :: w) none := by
  have hread : Reads .code ('#' :: w) .comment (.comment '#' :: w.map .comment) :=
    .cons rfl rfl (reads_comment h)
  have hend : Reads .comment ['\n'] .code [.code '\n'] := by decide
  have hline : ReadsLine ('#' :: w) (.comment '#' :: w.map .comment) :=
    ⟨nofun, hread.append hend⟩
  have hcomments : (w.map Token.comment).filter Token.isVisible = [] :=
    List.filter_eq_nil_iff.2 (List.forall_mem_map.2 fun _ _ => nofun)
  refine ⟨_, hline, hline, ⟨rfl, ?_⟩, ?_⟩
  · simp [Token.endsLine]
  · simp [opens?, Token.isVisible, Token.isComment, hcomments]

/-! ### Code -/

/--
Pieces of code at a depth have the same lines outside literals. These are nested, and if so marked
there is at least one statement.
-/
def AlikeCode (spoken : Bool) (depth : Nat) (cs cs' : List Code) : Prop :=
  ∃ ls, Reads .code (Code.textAt depth cs).toList .code (joinLines ls) ∧
    Reads .code (Code.textAt depth cs').toList .code (joinLines ls) ∧
    (∀ line ∈ ls, ∀ t ∈ line, t.endsLine = false) ∧ Nested depth (ls.filterMap codeLine?) ∧
    (spoken = true → ls.filterMap codeLine? ≠ [])

namespace AlikeCode

variable {spoken spoken' : Bool} {depth : Nat} {cs cs' ds ds' : List Code}

theorem nil : AlikeCode false depth [] [] :=
  ⟨[], .nil, .nil, nofun, .nil, nofun⟩

theorem append (h : AlikeCode spoken depth cs cs') (h' : AlikeCode spoken' depth ds ds') :
    AlikeCode (spoken || spoken') depth (cs ++ ds) (cs' ++ ds') := by
  obtain ⟨ls, hleft, hright, hends, hnested, hspoken⟩ := h
  obtain ⟨ls', hleft', hright', hends', hnested', hspoken'⟩ := h'
  refine ⟨ls ++ ls', ?_, ?_, ?_, ?_, fun hor => ?_⟩
  · rw [Code.textAt_append, String.toList_append, joinLines, List.flatMap_append]
    exact hleft.append hleft'
  · rw [Code.textAt_append, String.toList_append, joinLines, List.flatMap_append]
    exact hright.append hright'
  · exact List.forall_mem_append.2 ⟨hends, hends'⟩
  · rw [List.filterMap_append]
    exact hnested.append hnested'
  · rw [List.filterMap_append]
    intro hnil
    obtain ⟨hxs, hys⟩ := List.append_eq_nil_iff.1 hnil
    exact (Bool.or_eq_true_iff.1 hor).elim (fun h => hspoken h hxs) fun h => hspoken' h hys

theorem cons {x x' : Code} (h : AlikeCode spoken depth [x] [x'])
    (h' : AlikeCode spoken' depth cs cs') :
    AlikeCode (spoken || spoken') depth (x :: cs) (x' :: cs') :=
  h.append h'

theorem silent (h : AlikeCode spoken depth cs cs') : AlikeCode false depth cs cs' := by
  obtain ⟨ls, hleft, hright, hends, hnested, -⟩ := h
  exact ⟨ls, hleft, hright, hends, hnested, nofun⟩

theorem endsLine_eq_false {ts : List Token} (hline : IsLine ts) :
    ∀ t ∈ blanks depth ++ ts, t.endsLine = false := by
  rw [List.forall_mem_append]
  refine ⟨fun t ht => ?_, fun t ht => ?_⟩
  · rw [(List.mem_replicate.1 ht).2]
    rfl
  · have hends := List.all_eq_true.1 hline.2 t ht
    rwa [Bool.not_eq_true'] at hends

theorem reads_line {ts : List Token} (h : ReadsLine u ts) (depth : Nat) :
    Reads .code (line depth (String.ofList u)).toList .code (joinLines [blanks depth ++ ts]) := by
  have hne : String.ofList u ≠ "" := fun hnil => h.1 (String.ofList_eq_empty_iff.1 hnil)
  have hjoin : joinLines [blanks depth ++ ts] = blanks depth ++ (ts ++ [.code '\n']) := by
    rw [joinLines, List.flatMap_singleton, List.append_assoc]
  rw [toList_line hne, String.toList_ofList, hjoin]
  exact (reads_blanks depth).append h.2

theorem codeLine?_blanks_append {ts : List Token} (hline : IsLine ts) (depth : Nat) :
    codeLine? (blanks depth ++ ts) = (opens? ts).map (CodeLine.mk (unit.length * depth)) := by
  rw [codeLine?_indented, opens?, Option.map_map]
  · rfl
  · intro t ht
    have hhead := hline.1
    rw [Option.mem_def.1 ht] at hhead
    simpa using hhead

theorem textAt_statement (s : Statement) :
    Code.textAt depth [.statement s] = line depth (String.ofList s.text.toList) := by
  rw [String.ofList_toList]
  exact String.append_empty

theorem statement {s s' : Statement} {kind : Option Bool}
    (h : AlikeLine s.text.toList s'.text.toList kind) (hkind : kind ≠ some true) :
    AlikeCode kind.isSome depth [.statement s] [.statement s'] := by
  obtain ⟨ts, hleft, hright, hline, rfl⟩ := h
  refine ⟨[blanks depth ++ ts], ?_, ?_, ?_, ?_, fun hsome => ?_⟩
  · rw [textAt_statement]
    exact reads_line hleft depth
  · rw [textAt_statement]
    exact reads_line hright depth
  · rw [List.forall_mem_singleton]
    exact endsLine_eq_false hline
  · rw [List.filterMap_cons, codeLine?_blanks_append hline]
    cases hopens : opens? ts with
    | none => exact .nil
    | some b =>
      cases b with
      | false => exact .statement
      | true => exact absurd hopens hkind
  · obtain ⟨b, hb⟩ := Option.isSome_iff_exists.1 hsome
    rw [List.filterMap_cons, codeLine?_blanks_append hline, hb]
    exact nofun

theorem textAt_blank (depth n : Nat) :
    (Code.textAt depth [.blank n]).toList = List.replicate n '\n' := by
  have htext : Code.textAt depth [.blank n] = String.join (List.replicate n "\n") ++ "" := rfl
  rw [htext, String.append_empty]
  induction n with
  | zero => rfl
  | succ n ih =>
    rw [List.replicate_succ, String.join_cons, String.toList_append, ih rfl]
    rfl

theorem blank (n : Nat) : AlikeCode false depth [.blank n] [.blank n] := by
  have hread : Reads .code (Code.textAt depth [.blank n]).toList .code
      (joinLines (List.replicate n [])) := by
    rw [textAt_blank]
    induction n with
    | zero => exact .nil
    | succ n ih => exact .cons rfl rfl ih
  refine ⟨List.replicate n [], hread, hread, fun line hline => ?_, ?_, nofun⟩
  · rw [(List.mem_replicate.1 hline).2]
    exact nofun
  · rw [List.filterMap_replicate_of_none rfl]
    exact .nil

theorem docstring {texts texts' : List String}
    (h : ∀ s, texts = [s] → s.toList.getLast? ≠ some '"')
    (h' : ∀ s, texts' = [s] → s.toList.getLast? ≠ some '"') :
    AlikeCode true depth [.docstring texts] [.docstring texts'] := by
  have htext : ∀ texts, Code.textAt depth [.docstring texts] = Layout.docstring depth texts :=
    fun _ => String.append_empty
  have hline : IsLine [.literal] := ⟨rfl, rfl⟩
  have hshown : [blanks depth ++ [.literal]].filterMap codeLine? =
      [⟨unit.length * depth, false⟩] := by
    rw [List.filterMap_cons, codeLine?_blanks_append hline]
    rfl
  have hjoin : joinLines [blanks depth ++ [.literal]] = docTokens depth := by
    rw [joinLines, List.flatMap_singleton, List.append_assoc]
    rfl
  refine ⟨[blanks depth ++ [.literal]], ?_, ?_, ?_, ?_, fun _ => ?_⟩
  · rw [htext, hjoin]
    exact reads_docstring depth h
  · rw [htext, hjoin]
    exact reads_docstring depth h'
  · rw [List.forall_mem_singleton]
    exact endsLine_eq_false hline
  · rw [hshown]
    exact .statement
  · rw [hshown]
    exact List.cons_ne_nil _ _

theorem sentence (s : String) :
    AlikeCode true depth [.docstring [s ++ "."]] [.docstring [s ++ "."]] := by
  have hend : ∀ text, [s ++ "."] = [text] → text.toList.getLast? ≠ some '"' := by
    intro text htext
    obtain rfl := List.singleton_inj.1 htext
    rw [String.toList_append, List.getLast?_append]
    exact nofun
  exact docstring hend hend

theorem block {header header' : String}
    (hheader : AlikeLine header.toList header'.toList (some true))
    (hbody : AlikeCode true (depth + 1) cs cs') :
    AlikeCode true depth [.block header cs] [.block header' cs'] := by
  obtain ⟨ts, hleft, hright, hline, hopens⟩ := hheader
  obtain ⟨ls, hbodyLeft, hbodyRight, hends, hnested, hspoken⟩ := hbody
  have hjoin : joinLines ((blanks depth ++ ts) :: ls) =
      joinLines [blanks depth ++ ts] ++ joinLines ls := by
    simp [joinLines]
  have hread : ∀ {header : String} {cs : List Code}, ReadsLine header.toList ts →
      Reads .code (Code.textAt (depth + 1) cs).toList .code (joinLines ls) →
      Reads .code (Code.textAt depth [.block header cs]).toList .code
        (joinLines ((blanks depth ++ ts) :: ls)) := by
    intro header cs hheader hbody
    have hfirst := reads_line hheader depth
    rw [String.ofList_toList] at hfirst
    rw [Code.textAt_block, String.toList_append, hjoin]
    exact hfirst.append hbody
  have hshown : ((blanks depth ++ ts) :: ls).filterMap codeLine? =
      ⟨unit.length * depth, true⟩ :: ls.filterMap codeLine? := by
    rw [List.filterMap_cons, codeLine?_blanks_append hline, hopens]
    rfl
  refine ⟨(blanks depth ++ ts) :: ls, hread hleft hbodyLeft, hread hright hbodyRight, ?_, ?_,
    fun _ => ?_⟩
  · rw [List.forall_mem_cons]
    exact ⟨endsLine_eq_false hline, hends⟩
  · rw [hshown]
    exact hnested.block (hspoken rfl)
  · rw [hshown]
    exact List.cons_ne_nil _ _

end AlikeCode

/-! ### Fixed code -/

def IsFixedLine (line : List Char) (kind : Option Bool) : Prop :=
  line ≠ [] ∧ Reads (run .code line).1 ['\n'] .code [.code '\n'] ∧ IsLine (run .code line).2 ∧
    opens? (run .code line).2 = kind

instance (ts : List Token) : Decidable (IsLine ts) := inferInstanceAs (Decidable (_ ∧ _))

instance (line : List Char) (kind : Option Bool) : Decidable (IsFixedLine line kind) :=
  inferInstanceAs (Decidable (_ ∧ _ ∧ _ ∧ _))

theorem IsFixedLine.alike {line : List Char} {kind : Option Bool} (h : IsFixedLine line kind) :
    AlikeLine line line kind := by
  obtain ⟨hne, hend, hline, hkind⟩ := h
  have hread : ReadsLine line (run .code line).2 := ⟨hne, Reads.append rfl hend⟩
  exact ⟨_, hread, hread, hline, hkind⟩

/-- Whether a fixed piece of code has a statement. -/
def speaks : Code → Bool
  | .statement s => decide (IsFixedLine s.text.toList (some false))
  | .blank _ => false
  | .docstring _ | .block _ _ => true

mutual

/-- Whether a fixed piece of code can be read, and no block in it is empty. -/
def isFixed : Code → Bool
  | .statement s =>
    decide (IsFixedLine s.text.toList (some false)) || decide (IsFixedLine s.text.toList none)
  | .blank _ => true
  | .docstring texts => texts.all fun s => s.toList.getLast? != some '"'
  | .block header body =>
    decide (IsFixedLine header.toList (some true)) && body.any speaks && areFixed body

/-- Whether this holds of all of several pieces. -/
def areFixed : List Code → Bool
  | [] => true
  | c :: rest => isFixed c && areFixed rest

end

namespace AlikeCode

variable {depth : Nat}

theorem fixed_docstring {texts : List String}
    (h : (texts.all fun s => s.toList.getLast? != some '"') = true) :
    AlikeCode true depth [.docstring texts] [.docstring texts] := by
  have hend : ∀ s, texts = [s] → s.toList.getLast? ≠ some '"' := by
    rintro s rfl
    rwa [List.all_cons, List.all_nil, Bool.and_true, bne_iff_ne] at h
  exact docstring hend hend

mutual

theorem fixed_one : ∀ {c : Code} {depth : Nat}, isFixed c = true →
    AlikeCode (speaks c) depth [c] [c]
  | .statement s, depth, h => by
    by_cases hstatement : IsFixedLine s.text.toList (some false)
    · rw [speaks, decide_eq_true hstatement]
      exact statement hstatement.alike (by decide)
    · rw [isFixed, decide_eq_false hstatement, Bool.false_or, decide_eq_true_eq] at h
      rw [speaks, decide_eq_false hstatement]
      exact statement h.alike (by decide)
  | .blank n, depth, _ => blank n
  | .docstring texts, depth, h => fixed_docstring h
  | .block header body, depth, h => by
    rw [isFixed, Bool.and_eq_true, Bool.and_eq_true, decide_eq_true_eq] at h
    obtain ⟨⟨hheader, hspeaks⟩, hbody⟩ := h
    exact block hheader.alike (hspeaks ▸ fixed hbody)

theorem fixed : ∀ {cs : List Code} {depth : Nat}, areFixed cs = true →
    AlikeCode (cs.any speaks) depth cs cs
  | [], depth, _ => nil
  | c :: cs, depth, h => by
    rw [areFixed, Bool.and_eq_true] at h
    exact (fixed_one h.1).cons (fixed h.2)

end

end AlikeCode

/-! ### Emissions -/

/-- Emissions that come to the same end, and if it is a result have written code that is alike. -/
def AlikeEmission {α : Type} (spoken : Bool) (e e' : Emission α) : Prop :=
  e.result = e'.result ∧
    ∀ a, e.result = .ok a → ∀ depth, AlikeCode spoken depth e.code e'.code

namespace AlikeEmission

variable {α β : Type} {spoken spoken' : Bool} {e e' : Emission α} {f f' : α → Emission β}

theorem pure (a : α) : AlikeEmission false (Pure.pure a : Emission α) (Pure.pure a) :=
  ⟨rfl, fun _ _ _ => .nil⟩

theorem write {cs cs' : List Code} (h : ∀ depth, AlikeCode spoken depth cs cs') :
    AlikeEmission spoken (Emission.write cs) (Emission.write cs') :=
  ⟨rfl, fun _ _ => h⟩

theorem statement {s s' : Statement} {kind : Option Bool}
    (h : AlikeLine s.text.toList s'.text.toList kind) (hkind : kind ≠ some true) :
    AlikeEmission kind.isSome (Emission.statement s) (Emission.statement s') :=
  write fun _ => .statement h hkind

theorem bind (he : AlikeEmission spoken e e')
    (hf : ∀ a, e.result = .ok a → AlikeEmission spoken' (f a) (f' a)) :
    AlikeEmission (spoken || spoken') (e >>= f) (e' >>= f') := by
  obtain ⟨code, result⟩ := e
  obtain ⟨code', result'⟩ := e'
  obtain ⟨rfl, hcode⟩ := he
  cases result with
  | error fault => exact ⟨rfl, nofun⟩
  | ok a =>
    obtain ⟨hresult, hrest⟩ := hf a rfl
    exact ⟨hresult, fun b hb depth => (hcode a rfl depth).append (hrest b hb depth)⟩

theorem calculate {r : Except Fault α} (hf : ∀ a, r = .ok a → AlikeEmission spoken (f a) (f' a)) :
    AlikeEmission spoken (Emission.calculate r >>= f) (Emission.calculate r >>= f') := by
  have hnothing : AlikeEmission false (Emission.calculate r) (Emission.calculate r) :=
    ⟨rfl, fun _ _ _ => .nil⟩
  have hbind := hnothing.bind hf
  rwa [Bool.false_or] at hbind

theorem block {header header' : String}
    (hheader : AlikeLine header.toList header'.toList (some true)) (he : AlikeEmission true e e') :
    AlikeEmission true (Emission.block header e) (Emission.block header' e') :=
  ⟨he.1, fun a ha depth => .block hheader (he.2 a ha (depth + 1))⟩

theorem silent (h : AlikeEmission spoken e e') : AlikeEmission false e e' :=
  ⟨h.1, fun a ha depth => (h.2 a ha depth).silent⟩

end AlikeEmission

/-! ### Whole texts -/

namespace AlikeCode

variable {spoken : Bool} {cs cs' : List Code}

/-- Code that is alike is read to its end, with the same tokens. -/
theorem outside_eq (h : AlikeCode spoken 0 cs cs') :
    IsComplete (Code.textAt 0 cs) ∧ IsComplete (Code.textAt 0 cs') ∧
      outside (Code.textAt 0 cs) = outside (Code.textAt 0 cs') := by
  obtain ⟨ls, hleft, hright, -⟩ := h
  refine ⟨congrArg Prod.fst hleft, congrArg Prod.fst hright, ?_⟩
  exact (congrArg Prod.snd hleft).trans (congrArg Prod.snd hright).symm

theorem blockStructure (h : AlikeCode spoken 0 cs cs') :
    BlockStructure (codeLines (outside (Code.textAt 0 cs))) := by
  obtain ⟨ls, hleft, -, hends, hnested, -⟩ := h
  have htokens : outside (Code.textAt 0 cs) = joinLines ls := congrArg Prod.snd hleft
  rw [htokens, codeLines_joinLines hends]
  exact hnested.blockStructure

end AlikeCode

end Grounding.Lexing

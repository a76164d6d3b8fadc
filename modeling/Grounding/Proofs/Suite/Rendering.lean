import Grounding.Proofs.Driver.Grounded
import Grounding.Proofs.Files.Tree
import Grounding.Proofs.Json.Reading
import Grounding.Proofs.Json.Writing
import Grounding.Proofs.Suite.Numbers
import Grounding.Proofs.Suite.Record
import Grounding.Suite.Load

/-!
# Suites survive being stored

Every suite has documents, and each of them is loaded as that suite: whatever stands for the suite
is read as the suite, and whatever writes it as JSON is read as what it writes. The integers of a
suite and the numbers that are ignored may not be too long.
-/

namespace Grounding

open Itemwise Json

variable {α : Type}

/-! ### Documents exist -/

/-- Something that stands for a value can be written. -/
def HasText (P : Standing α) (a : α) : Prop :=
  ∃ j text, P a j ∧ Writes (· ≤ Numeral.digitLimit) j text

theorem hasText_text (s : String) : HasText Standing.text s := by
  obtain ⟨text, htext⟩ := exists_writesString s
  exact ⟨_, text, rfl, .string htext⟩

theorem hasText_bool (b : Bool) : HasText Standing.bool b := by
  cases b with
  | true => exact ⟨_, _, rfl, .word .true⟩
  | false => exact ⟨_, _, rfl, .word .false⟩

theorem hasText_int {n : Int} (hn : Numeral.isWritable n = true) : HasText Standing.int n := by
  obtain ⟨text, htext⟩ := exists_writes_int hn
  exact ⟨_, text, rfl, htext⟩

theorem hasText_optional {P : Standing α} {a : Option α} (h : ∀ b ∈ a, HasText P b) :
    HasText (Standing.optional P) a := by
  cases a with
  | none => exact ⟨_, _, rfl, .word .null⟩
  | some b => exact h b rfl

theorem hasText_list {P : Standing α} {as : List α} (h : ∀ a ∈ as, HasText P a) :
    HasText (Standing.list P) as := by
  obtain ⟨values, hvalues⟩ := exists_forall₂ h
  obtain ⟨text, htext⟩ := exists_writes_array fun j hj => by
    obtain ⟨a, -, text, -, htext⟩ := exists_mem_of_forall₂ hvalues j hj
    exact ⟨text, htext⟩
  exact ⟨_, text, ⟨values, rfl, hvalues.imp fun _ _ ⟨_, hstands, _⟩ => hstands⟩, htext⟩

theorem exists_text_record {fields : List (String × (Json → Prop))}
    (hdistinct : (fields.map Prod.fst).Nodup)
    (h : ∀ f ∈ fields, ∃ v text, f.2 v ∧ Writes (· ≤ Numeral.digitLimit) v text) :
    ∃ j text, Standing.record fields j ∧ Writes (· ≤ Numeral.digitLimit) j text := by
  have hmembers : ∃ members : List (String × Json),
      members.map Prod.fst = fields.map Prod.fst ∧
        (∀ m ∈ members, ∃ text, Writes (· ≤ Numeral.digitLimit) m.2 text) ∧
        ∀ f ∈ fields, ∃ v, members.lookup f.1 = some v ∧ f.2 v := by
    induction fields with
    | nil => exact ⟨[], rfl, nofun, nofun⟩
    | cons f fields ih =>
      rw [List.map_cons, List.nodup_cons] at hdistinct
      rw [List.forall_mem_cons] at h
      obtain ⟨⟨v, text, hv, htext⟩, hrest⟩ := h
      obtain ⟨members, hnames, hwrites, hlookup⟩ := ih hdistinct.2 hrest
      refine ⟨(f.1, v) :: members, by rw [List.map_cons, List.map_cons, hnames],
        List.forall_mem_cons.2 ⟨⟨text, htext⟩, hwrites⟩, List.forall_mem_cons.2 ⟨?_, ?_⟩⟩
      · exact ⟨v, by rw [List.lookup_cons, beq_self_eq_true], hv⟩
      · intro g hg
        have hskip : (g.1 == f.1) = false := by
          refine beq_false_of_ne fun heq => hdistinct.1 ?_
          rw [← heq]
          exact List.mem_map_of_mem hg
        rw [List.lookup_cons, hskip]
        exact hlookup g hg
  obtain ⟨members, hnames, hwrites, hlookup⟩ := hmembers
  obtain ⟨text, htext⟩ := exists_writes_object (hnames ▸ hdistinct) hwrites
  exact ⟨_, text, ⟨members, rfl, hlookup⟩, htext⟩

/-! ### The records of a suite -/

theorem hasText_parameter (p : Parameter) : HasText Standing.parameter p := by
  refine exists_text_record (by simp) ?_
  simp only [List.forall_mem_cons, List.not_mem_nil, false_imp_iff, implies_true, and_true]
  exact ⟨hasText_text _, hasText_text _, hasText_optional fun _ _ => hasText_text _,
    hasText_bool _⟩

theorem hasText_operation (o : Operation) : HasText Standing.operation o := by
  refine exists_text_record (by simp) ?_
  simp only [List.forall_mem_cons, List.not_mem_nil, false_imp_iff, implies_true, and_true]
  exact ⟨hasText_text _, hasText_list fun _ _ => hasText_parameter _,
    hasText_list fun _ _ => hasText_parameter _, hasText_list fun _ _ => hasText_parameter _⟩

theorem hasText_step (s : TestStep) : HasText Standing.step s := by
  refine exists_text_record (by simp) ?_
  simp only [List.forall_mem_cons, List.not_mem_nil, false_imp_iff, implies_true, and_true]
  exact ⟨hasText_text _, hasText_text _, hasText_bool _,
    hasText_optional fun _ _ => hasText_operation _⟩

theorem hasText_sequence {q : TestSequence} (h : q.IsWritable) : HasText Standing.sequence q := by
  refine exists_text_record (by simp) ?_
  simp only [List.forall_mem_cons, List.not_mem_nil, false_imp_iff, implies_true, and_true]
  exact ⟨hasText_int h.1, hasText_text _, hasText_int h.2, hasText_list fun _ _ => hasText_step _⟩

theorem hasText_notice (n : Notice) : HasText Standing.notice n := by
  refine exists_text_record (by simp) ?_
  simp only [List.forall_mem_cons, List.not_mem_nil, false_imp_iff, implies_true, and_true]
  exact ⟨hasText_text _, hasText_text _⟩

theorem hasText_suite {s : TestSuite} (h : ∀ q ∈ s.sequences, q.IsWritable) :
    HasText Standing.suite s := by
  refine exists_text_record (by simp) ?_
  simp only [List.forall_mem_cons, List.not_mem_nil, false_imp_iff, implies_true, and_true]
  exact ⟨hasText_text _, hasText_optional fun _ _ => hasText_text _, hasText_bool _,
    hasText_list fun q hq => hasText_sequence (h q hq), hasText_list fun _ _ => hasText_notice _⟩

/-! ### Documents are loaded -/

namespace TestSuite

/-- A document that renders a suite: the text of something that stands for it. In front of the point
a number of the document has as many digits as is allowed. -/
def IsRenderedBy (allowed : Nat → Prop) (s : TestSuite) (document : String) : Prop :=
  ∃ j, Standing.suite s j ∧ WritesDocument allowed j document

def loadFrom (path : Path) (t : FileTree) : Except SuiteError TestSuite × FileTree :=
  (load path : StateM FileTree (Except SuiteError TestSuite)).run t

theorem loadFrom_eq {path : Path} {t : FileTree} {document : String}
    (hread : t.read path = .ok document) :
    loadFrom path t = ((parse document).toExcept.mapError (.invalid path), t) := by
  show (ofFile path ((t.read path).mapError fun cause => ⟨cause, path⟩), t) = _
  rw [hread]
  rfl

def documentPath : Path := ⟨.relative, ["suite.json"]⟩

def treeOf (document : String) : FileTree := FileTree.empty.put ["suite.json"] (.file document)

theorem read_treeOf (document : String) : (treeOf document).read documentPath = .ok document := by
  have hfind : (treeOf document).find documentPath = .ok (["suite.json"], some (.file document)) :=
    FileTree.find_eq_ok_iff.2 ⟨FileTree.hasNull_eq_false_iff.2 (by decide), rfl, rfl⟩
  rw [FileTree.read, hfind]

/-- A member without white space whose name needs no escapes. -/
def plainMember (name : String) (j : Json) (text : List Char) : Member :=
  ⟨[], name, '"' :: name.toList ++ ['"'], [], ⟨[], j, text, []⟩⟩

theorem isSpaced_plainMember {name : String} (j : Json) (text : List Char)
    (h : name.toList.all needsNoEscape = true) :
    (plainMember name j text).IsSpaced :=
  ⟨isBlank_nil, writesString_plain h, isBlank_nil, isBlank_nil, isBlank_nil⟩

theorem isWhole_replicate (n : Nat) : IsWhole (List.replicate (n + 1) '3') := by
  refine ⟨⟨nofun, fun d hd => ?_⟩, nofun⟩
  rw [List.eq_of_mem_replicate hd]
  decide

/-- The members of a suite without tests, and a member that is ignored. -/
def longNumberMembers : List Member :=
  [plainMember "name" (.string "A") ['"', 'A', '"'],
    plainMember "grounding" .null ['n', 'u', 'l', 'l'],
    plainMember "meta_check" (.bool false) ['f', 'a', 'l', 's', 'e'],
    plainMember "sequences" (.array []) ['[', ']'],
    plainMember "notices" (.array []) ['[', ']'],
    plainMember "ignored" (numberOf false (List.replicate 4301 '3') ['0'] none)
      (List.replicate 4301 '3' ++ ['.', '0'])]

/-- The text of a suite without tests that has a member with 4301 digits and a point. -/
def longNumberText : List Char :=
  '\x7b' :: [','].intercalate (longNumberMembers.map Member.written) ++ ['\x7d']

theorem isRenderedBy_longNumberText :
    IsRenderedBy (fun _ => True) ⟨"A", none, false, [], []⟩ (String.ofList longNumberText) := by
  have hfraction : ∀ d ∈ ['0'], d.isDigit = true := List.forall_mem_singleton.2 rfl
  have hnumber : Writes (fun _ => True) (numberOf false (List.replicate 4301 '3') ['0'] none)
      (signText false ++ List.replicate 4301 '3' ++ fractionText ['0'] ++ []) :=
    .number (isWhole_replicate 4300) trivial hfraction .none
  rw [List.append_nil] at hnumber
  refine ⟨.object (membersOf longNumberMembers), ⟨_, rfl, ?_⟩, [], _, [], isBlank_nil,
    .object (List.cons_ne_nil _ _) ?_ ?_, isBlank_nil, ?_⟩
  · simp only [List.forall_mem_cons, List.not_mem_nil, false_imp_iff, implies_true, and_true]
    exact ⟨⟨_, rfl, rfl⟩, ⟨_, rfl, rfl⟩, ⟨_, rfl, rfl⟩, ⟨_, rfl, [], rfl, .nil⟩,
      ⟨_, rfl, [], rfl, .nil⟩⟩
  · simp only [longNumberMembers, List.forall_mem_cons, List.not_mem_nil, false_imp_iff,
      implies_true, and_true]
    exact ⟨isSpaced_plainMember _ _ (by decide), isSpaced_plainMember _ _ (by decide),
      isSpaced_plainMember _ _ (by decide), isSpaced_plainMember _ _ (by decide),
      isSpaced_plainMember _ _ (by decide), isSpaced_plainMember _ _ (by decide)⟩
  · simp only [longNumberMembers, List.forall_mem_cons, List.not_mem_nil, false_imp_iff,
      implies_true, and_true]
    exact ⟨.string (writesString_plain (s := "A") (by decide)), .word .null, .word .false,
      .emptyArray isBlank_nil, .emptyArray isBlank_nil, hnumber⟩
  · rw [String.toList_ofList, List.nil_append, List.append_nil, longNumberText]

theorem exists_parseChars_longNumberText :
    ∃ f, parseChars .numbers longNumberText = .error f := by
  have hrefused : (parseChars .numbers longNumberText).isOk = false := by decide +kernel
  cases h : parseChars .numbers longNumberText with
  | ok j =>
    rw [h] at hrefused
    cases hrefused
  | error f => exact ⟨f, rfl⟩

end TestSuite

end Grounding

import Grounding.Proofs.Number.Decimal
import Grounding.Proofs.Outcome
import Grounding.Suite.Document

/-!
# Numbers in a suite

A driver names the numbers of its sequences, and an integer with too many digits cannot be written.
A suite in memory may hold such a number, but a suite that was read from a document does not. No
integer of a document is so long, and neither is one that a text or a float stands for.
-/

namespace Grounding

/-- The integers of a sequence are not too long. -/
def TestSequence.IsWritable (q : TestSequence) : Prop :=
  Numeral.isWritable q.test = true ∧ Numeral.isWritable q.path = true

/-! ### Documents -/

namespace Json

/-- No integer in a value is too long. -/
inductive IsShort : Json → Prop
  | null : IsShort .null
  | bool (b : Bool) : IsShort (.bool b)
  | int {n : Int} : Numeral.isWritable n = true → IsShort (.int n)
  | float (x : Binary64) : IsShort (.float x)
  | string (s : String) : IsShort (.string s)
  | array {items : List Json} : (∀ j ∈ items, j.IsShort) → IsShort (.array items)
  | object {members : List (String × Json)} : (∀ m ∈ members, m.2.IsShort) →
      IsShort (.object members)

variable {rule : DigitRule} {j : Json}

theorem isShort_putMember {members : List (String × Json)} (name : String) (hj : j.IsShort)
    (h : ∀ m ∈ members, m.2.IsShort) : ∀ m ∈ putMember name j members, m.2.IsShort := by
  induction members with
  | nil => exact List.forall_mem_singleton.2 hj
  | cons m members ih =>
    rw [List.forall_mem_cons] at h
    rw [putMember]
    split
    · exact List.forall_mem_cons.2 ⟨hj, h.2⟩
    · exact List.forall_mem_cons.2 ⟨h.1, ih h.2⟩

theorem isDigit_takeDigits (s : List Char) : ∀ d ∈ (takeDigits s).1, d.isDigit = true :=
  fun _ hd => List.mem_takeWhile_imp hd

theorem isShort_readNumber {s rest : List Char} (h : readNumber rule s = .ok (j, rest)) :
    j.IsShort := by
  unfold readNumber at h
  split at h
  next negative unsigned _ =>
    split at h
    next whole after hwhole =>
      have hdigits : ∀ d ∈ whole, d.isDigit = true := by
        split at hwhole
        · obtain ⟨rfl, -⟩ := Prod.mk.inj hwhole
          exact List.forall_mem_singleton.2 rfl
        · obtain rfl : (takeDigits unsigned).1 = whole := congrArg Prod.fst hwhole
          exact isDigit_takeDigits unsigned
      split at h
      · cases h
      · simp only at h
        split at h
        · cases h
        · next hlimit =>
          split at h
          · next hinteger =>
            obtain ⟨rfl, -⟩ := Prod.mk.inj (Except.ok.inj h)
            rw [hinteger] at hlimit
            refine .int (Numeral.isWritable_signed hdigits ?_ negative)
            simpa [DigitRule.covers] using hlimit
          · obtain ⟨rfl, -⟩ := Prod.mk.inj (Except.ok.inj h)
            exact .float _

theorem isShort_readScalar {s rest : List Char} (h : readScalar rule s = .ok (j, rest)) :
    j.IsShort := by
  rw [readScalar] at h
  split at h
  · next w i hfind =>
    obtain ⟨rfl, -⟩ := Prod.mk.inj (Except.ok.inj h)
    have hword : (w, i) ∈ words := List.mem_of_find?_eq_some hfind
    simp only [words, List.mem_cons, Prod.mk.injEq, List.not_mem_nil, or_false] at hword
    obtain ⟨-, rfl⟩ | ⟨-, rfl⟩ | ⟨-, rfl⟩ | ⟨-, rfl⟩ | ⟨-, rfl⟩ | ⟨-, rfl⟩ := hword <;> constructor
  · exact isShort_readNumber h

variable {fuel : Nat}

theorem isShort_readValue
    (hitems : ∀ s items rest, readItems rule fuel s = .ok (items, rest) → ∀ j ∈ items, j.IsShort)
    (hmembers : ∀ before s members rest, (∀ m ∈ before, m.2.IsShort) →
      readMembers rule fuel before s = .ok (members, rest) → ∀ m ∈ members, m.2.IsShort)
    {s rest : List Char} (h : readValue rule (fuel + 1) s = .ok (j, rest)) : j.IsShort := by
  rw [readValue.eq_def] at h
  simp only at h
  split at h
  · obtain ⟨⟨t, r⟩, -, hj⟩ := Outcome.exceptMap_eq_ok_iff.1 h
    obtain ⟨rfl, -⟩ := Prod.mk.inj hj
    exact .string _
  · split at h
    · obtain ⟨rfl, -⟩ := Prod.mk.inj (Except.ok.inj h)
      exact .array (List.forall_mem_nil _)
    · obtain ⟨⟨items, r⟩, hread, hj⟩ := Outcome.exceptMap_eq_ok_iff.1 h
      obtain ⟨rfl, -⟩ := Prod.mk.inj hj
      exact .array (hitems _ _ _ hread)
  · split at h
    · obtain ⟨rfl, -⟩ := Prod.mk.inj (Except.ok.inj h)
      exact .object (List.forall_mem_nil _)
    · obtain ⟨⟨members, r⟩, hread, hj⟩ := Outcome.exceptMap_eq_ok_iff.1 h
      obtain ⟨rfl, -⟩ := Prod.mk.inj hj
      exact .object (hmembers _ _ _ _ (List.forall_mem_nil _) hread)
  · exact isShort_readScalar h

theorem isShort_readItems
    (hvalue : ∀ s j rest, readValue rule fuel s = .ok (j, rest) → j.IsShort)
    (hitems : ∀ s items rest, readItems rule fuel s = .ok (items, rest) → ∀ j ∈ items, j.IsShort)
    {s rest : List Char} {items : List Json}
    (h : readItems rule (fuel + 1) s = .ok (items, rest)) : ∀ j ∈ items, j.IsShort := by
  rw [readItems] at h
  obtain ⟨⟨item, r⟩, hitem, h⟩ := Outcome.bind_eq_ok_iff.1 h
  simp only at h
  split at h
  · obtain ⟨rfl, -⟩ := Prod.mk.inj (Except.ok.inj h)
    exact List.forall_mem_singleton.2 (hvalue _ _ _ hitem)
  · obtain ⟨⟨others, r'⟩, hread, hj⟩ := Outcome.exceptMap_eq_ok_iff.1 h
    obtain ⟨rfl, -⟩ := Prod.mk.inj hj
    exact List.forall_mem_cons.2 ⟨hvalue _ _ _ hitem, hitems _ _ _ hread⟩
  · cases h

theorem isShort_readMembers
    (hvalue : ∀ s j rest, readValue rule fuel s = .ok (j, rest) → j.IsShort)
    (hmembers : ∀ before s members rest, (∀ m ∈ before, m.2.IsShort) →
      readMembers rule fuel before s = .ok (members, rest) → ∀ m ∈ members, m.2.IsShort)
    {before members : List (String × Json)} {s rest : List Char}
    (hbefore : ∀ m ∈ before, m.2.IsShort)
    (h : readMembers rule (fuel + 1) before s = .ok (members, rest)) :
    ∀ m ∈ members, m.2.IsShort := by
  rw [readMembers.eq_def] at h
  simp only at h
  split at h
  · obtain ⟨⟨name, r⟩, -, h⟩ := Outcome.bind_eq_ok_iff.1 h
    simp only at h
    split at h
    · obtain ⟨⟨item, r'⟩, hitem, h⟩ := Outcome.bind_eq_ok_iff.1 h
      have hput := isShort_putMember (String.ofList name) (hvalue _ _ _ hitem) hbefore
      simp only at h
      split at h
      · obtain ⟨rfl, -⟩ := Prod.mk.inj (Except.ok.inj h)
        exact hput
      · exact hmembers _ _ _ _ hput h
      · cases h
    · cases h
  · cases h

/-- What is read has no long integer: a value, the items of an array, and the members of an object,
if those before them have none. -/
theorem isShort_read (fuel : Nat) :
    (∀ s j rest, readValue rule fuel s = .ok (j, rest) → j.IsShort) ∧
    (∀ s items rest, readItems rule fuel s = .ok (items, rest) → ∀ j ∈ items, j.IsShort) ∧
    (∀ before s members rest, (∀ m ∈ before, m.2.IsShort) →
      readMembers rule fuel before s = .ok (members, rest) → ∀ m ∈ members, m.2.IsShort) := by
  induction fuel with
  | zero => exact ⟨nofun, nofun, nofun⟩
  | succ fuel ih =>
    obtain ⟨hvalue, hitems, hmembers⟩ := ih
    refine ⟨fun _ _ _ h => ?_, fun _ _ _ h => ?_, fun _ _ _ _ hbefore h => ?_⟩
    · exact isShort_readValue hitems hmembers h
    · exact isShort_readItems hvalue hitems h
    · exact isShort_readMembers hvalue hmembers hbefore h

theorem isShort_parseUnder {document : String} (h : parseUnder rule document = .ok j) :
    j.IsShort := by
  have hchars : parseChars rule document.toList = .ok j := Outcome.mapError_eq_ok_iff.1 h
  unfold parseChars at hchars
  split at hchars
  · cases hchars
  · obtain ⟨⟨i, rest⟩, hread, hrest⟩ := Outcome.bind_eq_ok_iff.1 hchars
    simp only at hrest
    split at hrest
    · obtain rfl := Except.ok.inj hrest
      exact (isShort_read _).1 _ _ _ hread
    · cases hrest

end Json

/-! ### Readers -/

namespace Validated

variable {α β : Type}

theorem seq_eq_valid_iff {f : Validated (α → β)} {v : Validated α} {b : β} :
    f <*> v = valid b ↔ ∃ g a, f = valid g ∧ v = valid a ∧ g a = b := by
  constructor
  · intro h
    cases f with
    | invalid _ => cases v <;> cases h
    | valid g =>
      cases v with
      | invalid _ => cases h
      | valid a =>
        cases h
        exact ⟨g, a, rfl, rfl, rfl⟩
  · rintro ⟨g, a, rfl, rfl, rfl⟩
    rfl

theorem map_eq_valid_iff {g : α → β} {v : Validated α} {b : β} :
    g <$> v = valid b ↔ ∃ a, v = valid a ∧ g a = b := by
  constructor
  · intro h
    obtain ⟨_, a, hg, hv, rfl⟩ := seq_eq_valid_iff.1 h
    cases hg
    exact ⟨a, hv, rfl⟩
  · rintro ⟨a, rfl, rfl⟩
    rfl

theorem under_eq_valid_iff {place : Branch} {v : Validated α} {a : α} :
    v.under place = valid a ↔ v = valid a := by
  cases v with
  | valid _ => exact Iff.rfl
  | invalid _ => exact iff_of_false nofun nofun

end Validated

namespace Reader

open Validated Document Numeral

variable {α β : Type} [Document α] {read : α → Validated β}

theorem exists_of_list {node : α} {bs : List β} (h : list read node = valid bs) :
    ∃ nodes, shape node = .items nodes ∧ ∀ b ∈ bs, ∃ n ∈ nodes, read n = valid b := by
  have hitems : ∀ (nodes : List α) (index : Nat) (bs : List β),
      itemsFrom read index nodes = valid bs → ∀ b ∈ bs, ∃ n ∈ nodes, read n = valid b := by
    intro nodes
    induction nodes with
    | nil =>
      rintro index bs h
      cases h
      exact List.forall_mem_nil _
    | cons n nodes ih =>
      intro index bs h
      obtain ⟨_, others, hfirst, hothers, rfl⟩ := seq_eq_valid_iff.1 h
      obtain ⟨b, hb, rfl⟩ := map_eq_valid_iff.1 hfirst
      refine List.forall_mem_cons.2 ⟨⟨n, List.mem_cons_self, under_eq_valid_iff.1 hb⟩, ?_⟩
      intro b' hb'
      obtain ⟨n', hn', hread⟩ := ih _ _ hothers b' hb'
      exact ⟨n', List.mem_cons_of_mem _ hn', hread⟩
  rw [list] at h
  split at h
  · next nodes hnodes => exact ⟨nodes, hnodes, hitems nodes 0 bs h⟩
  · cases h

omit [Document α] in
theorem eq_or_exists_of_defaulted {name : String} {fallback b : β} {nodes : List (String × α)}
    (h : defaulted name read fallback nodes = valid b) :
    b = fallback ∨ ∃ m ∈ nodes, read m.2 = valid b := by
  rw [defaulted] at h
  split at h
  · next n hlookup =>
    obtain ⟨before, after, rfl, -⟩ := List.lookup_eq_some_iff.1 hlookup
    exact .inr ⟨(name, n), List.mem_append_right _ List.mem_cons_self, under_eq_valid_iff.1 h⟩
  · cases h
    exact .inl rfl

-- Powers are the core library's, whatever else is imported beside this module.
attribute [local instance (high)] instPowNat

theorem isWritable_of_natAbs_lt {n : Int} (h : n.natAbs < 10 ^ 20) : isWritable n = true :=
  decide_eq_true (h.trans_le (Nat.pow_le_pow_right (by decide) (by decide)))

theorem isWritable_of_intOfFloat {x : Binary64} {n : Int} (h : intOfFloat x = .ok n) :
    isWritable n = true := by
  unfold intOfFloat at h
  split at h
  · split at h
    · split at h
      · next hword =>
        obtain rfl := Except.ok.inj h
        simp only [isWord64, Bool.and_eq_true, decide_eq_true_eq] at hword
        refine isWritable_of_natAbs_lt ?_
        omega
      · cases h
    · cases h
  · cases h

theorem isDigit_of_areDigits {s : List Char} (h : areDigits s = true) :
    ∀ d ∈ s, d.isDigit = true := by
  cases s with
  | nil => exact List.forall_mem_nil _
  | cons c s =>
    simp only [areDigits, Bool.and_eq_true, List.all_eq_true] at h
    exact List.forall_mem_cons.2 ⟨h.1.1, h.1.2⟩

theorem isWritable_of_intOfText {s : String} {n : Int} (h : intOfText s = valid n) :
    isWritable n = true := by
  unfold intOfText at h
  split at h
  · cases h
  · simp only at h
    split at h
    · cases h
    · next hdigits =>
      split at h
      · cases h
      · next hlimit =>
        cases h
        exact isWritable_signed (isDigit_of_areDigits (by simpa using hdigits))
          (Nat.le_of_not_lt hlimit) _

theorem isWritable_of_int {j : Json} {n : Int} (hj : j.IsShort) (h : int j = valid n) :
    isWritable n = true := by
  cases hj with
  | int hn =>
    cases h
    exact hn
  | bool b =>
    cases h
    refine isWritable_of_natAbs_lt ?_
    cases b <;> decide
  | string s => exact isWritable_of_intOfText h
  | float x =>
    simp only [int, shape] at h
    split at h
    · next hx =>
      cases h
      exact isWritable_of_intOfFloat hx
    · cases h
  | null | array | object => cases h

end Reader

/-! ### Suites -/

namespace TestSuite

open Reader Validated

variable {j : Json}

theorem isShort_of_shape {nodes : List Json} (hj : j.IsShort)
    (h : Document.shape j = .items nodes) : ∀ n ∈ nodes, n.IsShort := by
  cases hj with
  | array hitems =>
    cases h
    exact hitems
  | null | bool | int | float | string | object => cases h

theorem isWritable_of_field {name : String} {n : Int} {members : List (String × Json)}
    (hmembers : ∀ m ∈ members, m.2.IsShort) (h : defaulted name int 0 members = valid n) :
    Numeral.isWritable n = true := by
  obtain rfl | ⟨m, hm, hread⟩ := eq_or_exists_of_defaulted h
  · exact isWritable_of_natAbs_lt (by decide)
  · exact isWritable_of_int (hmembers m hm) hread

theorem isWritable_of_readSequence {q : TestSequence} (hj : j.IsShort)
    (h : readSequence j = valid q) : q.IsWritable := by
  cases hj with
  | object hmembers =>
    obtain ⟨_, steps, h₃, -, rfl⟩ := seq_eq_valid_iff.1 h
    obtain ⟨_, path, h₂, hpath, rfl⟩ := seq_eq_valid_iff.1 h₃
    obtain ⟨_, state, h₁, -, rfl⟩ := seq_eq_valid_iff.1 h₂
    obtain ⟨test, htest, rfl⟩ := map_eq_valid_iff.1 h₁
    exact ⟨isWritable_of_field hmembers htest, isWritable_of_field hmembers hpath⟩
  | null | bool | int | float | string | array => cases h

theorem isWritable_of_ofJson {s : TestSuite} (hj : j.IsShort) (h : ofJson j = valid s) :
    ∀ q ∈ s.sequences, q.IsWritable := by
  cases hj with
  | object hmembers =>
    obtain ⟨_, notices, h₄, -, rfl⟩ := seq_eq_valid_iff.1 h
    obtain ⟨_, sequences, h₃, hsequences, rfl⟩ := seq_eq_valid_iff.1 h₄
    obtain ⟨_, _, h₂, -, rfl⟩ := seq_eq_valid_iff.1 h₃
    obtain ⟨_, _, h₁, -, rfl⟩ := seq_eq_valid_iff.1 h₂
    obtain ⟨_, -, rfl⟩ := map_eq_valid_iff.1 h₁
    intro q hq
    obtain rfl | ⟨m, hm, hread⟩ := eq_or_exists_of_defaulted hsequences
    · cases hq
    · obtain ⟨nodes, hshape, hnodes⟩ := exists_of_list hread
      obtain ⟨n, hn, hq⟩ := hnodes q hq
      exact isWritable_of_readSequence (isShort_of_shape (hmembers m hm) hshape n hn) hq
  | null | bool | int | float | string | array => cases h

/-- A suite that was read from a document can be written. -/
theorem isWritable_of_parse {document : String} {s : TestSuite}
    (h : parse document = valid s) : ∀ q ∈ s.sequences, q.IsWritable := by
  rw [parse] at h
  split at h
  · next hparse => exact isWritable_of_ofJson (Json.isShort_parseUnder hparse) h
  · cases h

end TestSuite

end Grounding

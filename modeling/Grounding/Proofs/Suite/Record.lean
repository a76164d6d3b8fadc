import Grounding.Proofs.Itemwise
import Grounding.Suite.Document

/-!
# Records in documents

What a JSON value has to be in order to stand for a value of a suite. A record stands in an object
that has a member for each of its fields; their order does not matter, nor do other members. A
reader reads all that stands for a value as that value.
-/

namespace Grounding

open Reader

abbrev Standing (α : Type) := α → Json → Prop

namespace Standing

variable {α : Type}

def text : Standing String := fun s j => j = .string s

/-- A truth value stands for itself. -/
def bool : Standing Bool := fun b j => j = .bool b

/-- An integer stands for itself. -/
def int : Standing Int := fun n j => j = .int n

/-- Null stands for a value that is missing. -/
def optional (P : Standing α) : Standing (Option α)
  | none, j => j = .null
  | some a, j => P a j

/-- An array stands for a list, item by item. -/
def list (P : Standing α) : Standing (List α) :=
  fun as j => ∃ items, j = .array items ∧ List.Forall₂ P as items

/-- An object stands for a record if it has the fields of the record among its members. -/
def record (fields : List (String × (Json → Prop))) (j : Json) : Prop :=
  ∃ members, j = .object members ∧ ∀ f ∈ fields, ∃ v, members.lookup f.1 = some v ∧ f.2 v

/-! ### The records of a suite -/

def parameter : Standing Parameter := fun p => record
  [("name", text p.name), ("type", text p.type), ("content", optional text p.content),
    ("bound", bool p.bound)]

def operation : Standing Operation := fun o => record
  [("name", text o.name), ("inputs", list parameter o.inputs),
    ("outputs", list parameter o.outputs), ("failures", list parameter o.failures)]

def step : Standing TestStep := fun s => record
  [("name", text s.name), ("state", text s.state), ("verify", bool s.verify),
    ("operation", optional operation s.operation)]

def sequence : Standing TestSequence := fun s => record
  [("test", int s.test), ("state", text s.state), ("path", int s.path),
    ("steps", list step s.steps)]

def noticeKind : Standing NoticeKind := fun k => text k.name

def notice : Standing Notice := fun n => record
  [("kind", noticeKind n.kind), ("text", text n.text)]

def suite : Standing TestSuite := fun s => record
  [("name", text s.name), ("grounding", optional text s.grounding),
    ("meta_check", bool s.metaCheck), ("sequences", list sequence s.sequences),
    ("notices", list notice s.notices)]

end Standing

/-! ### Readers -/

/-- A reader reads all that stands for a value as that value. -/
def IsReadBy {α : Type} (P : Standing α) (read : Json → Validated α) : Prop :=
  ∀ a j, P a j → read j = .valid a

namespace IsReadBy

variable {α : Type} {P : Standing α} {read : Json → Validated α}

theorem text : IsReadBy Standing.text Reader.text := by
  rintro s _ rfl
  rfl

theorem bool : IsReadBy Standing.bool Reader.bool := by
  rintro b _ rfl
  rfl

theorem int : IsReadBy Standing.int Reader.int := by
  rintro n _ rfl
  rfl

theorem optional (h : IsReadBy P read) (hnull : ∀ a, read .null ≠ .valid a) :
    IsReadBy (Standing.optional P) (Reader.optional read) := by
  rintro (_ | a) j hj
  · obtain rfl : j = .null := hj
    rfl
  · have hread : read j = .valid a := h a j hj
    cases j with
    | null => exact absurd hread (hnull a)
    | _ =>
      show (some <$> read _ : Validated (Option α)) = _
      rw [hread]
      rfl

theorem itemsFrom (h : IsReadBy P read) {as : List α} {items : List Json}
    (hitems : List.Forall₂ P as items) (index : Nat) :
    Reader.itemsFrom read index items = .valid as := by
  induction hitems generalizing index with
  | nil => rfl
  | cons hitem _ ih =>
    rw [Reader.itemsFrom, h _ _ hitem, ih]
    rfl

theorem list (h : IsReadBy P read) : IsReadBy (Standing.list P) (Reader.list read) := by
  rintro as _ ⟨items, rfl, hitems⟩
  exact h.itemsFrom hitems 0

/-! The fields of a record -/

variable {name : String} {members : List (String × Json)} {a : α}

theorem required (h : IsReadBy P read)
    (hfield : ∃ v, members.lookup name = some v ∧ P a v) :
    Reader.required name read members = .valid a := by
  obtain ⟨v, hlookup, hv⟩ := hfield
  rw [Reader.required, hlookup]
  show (read v).under _ = _
  rw [h a v hv]
  rfl

theorem defaulted (h : IsReadBy P read) (fallback : α)
    (hfield : ∃ v, members.lookup name = some v ∧ P a v) :
    Reader.defaulted name read fallback members = .valid a := by
  obtain ⟨v, hlookup, hv⟩ := hfield
  rw [Reader.defaulted, hlookup]
  show (read v).under _ = _
  rw [h a v hv]
  rfl

/-! The records of a suite -/

theorem parameter : IsReadBy Standing.parameter TestSuite.readParameter := by
  rintro p _ ⟨members, rfl, h⟩
  simp only [List.forall_mem_cons] at h
  obtain ⟨hname, htype, hcontent, hbound, -⟩ := h
  show (Parameter.mk <$> Reader.required "name" Reader.text members <*> _ <*> _ <*> _ :
    Validated Parameter) = _
  rw [text.required hname, text.defaulted "String" htype,
    (text.optional nofun).defaulted none hcontent, bool.defaulted true hbound]
  rfl

theorem operation : IsReadBy Standing.operation TestSuite.readOperation := by
  rintro o _ ⟨members, rfl, h⟩
  simp only [List.forall_mem_cons] at h
  obtain ⟨hname, hinputs, houtputs, hfailures, -⟩ := h
  show (Operation.mk <$> Reader.required "name" Reader.text members <*> _ <*> _ <*> _ :
    Validated Operation) = _
  rw [text.required hname, parameter.list.defaulted [] hinputs,
    parameter.list.defaulted [] houtputs, parameter.list.defaulted [] hfailures]
  rfl

theorem step : IsReadBy Standing.step TestSuite.readStep := by
  rintro s _ ⟨members, rfl, h⟩
  simp only [List.forall_mem_cons] at h
  obtain ⟨hname, hstate, hverify, hoperation, -⟩ := h
  show (TestStep.mk <$> Reader.required "name" Reader.text members <*> _ <*> _ <*> _ :
    Validated TestStep) = _
  rw [text.required hname, text.required hstate, bool.defaulted false hverify,
    (operation.optional nofun).defaulted none hoperation]
  rfl

theorem sequence : IsReadBy Standing.sequence TestSuite.readSequence := by
  rintro q _ ⟨members, rfl, h⟩
  simp only [List.forall_mem_cons] at h
  obtain ⟨htest, hstate, hpath, hsteps, -⟩ := h
  show (TestSequence.mk <$> Reader.defaulted "test" Reader.int 0 members <*> _ <*> _ <*> _ :
    Validated TestSequence) = _
  rw [int.defaulted 0 htest, text.defaulted "" hstate, int.defaulted 0 hpath,
    step.list.defaulted [] hsteps]
  rfl

theorem noticeKind : IsReadBy Standing.noticeKind TestSuite.readNoticeKind := by
  rintro k _ rfl
  cases k <;> rfl

theorem notice : IsReadBy Standing.notice TestSuite.readNotice := by
  rintro n _ ⟨members, rfl, h⟩
  simp only [List.forall_mem_cons] at h
  obtain ⟨hkind, htext, -⟩ := h
  show (Notice.mk <$> Reader.defaulted "kind" TestSuite.readNoticeKind .info members <*> _ :
    Validated Notice) = _
  rw [noticeKind.defaulted .info hkind, text.required htext]
  rfl

theorem suite : IsReadBy Standing.suite TestSuite.ofJson := by
  rintro s _ ⟨members, rfl, h⟩
  simp only [List.forall_mem_cons] at h
  obtain ⟨hname, hgrounding, hmeta, hsequences, hnotices, -⟩ := h
  show (TestSuite.mk <$> Reader.required "name" Reader.text members <*> _ <*> _ <*> _ <*> _ :
    Validated TestSuite) = _
  rw [text.required hname, (text.optional nofun).defaulted none hgrounding,
    bool.defaulted false hmeta, sequence.list.defaulted [] hsequences,
    notice.list.defaulted [] hnotices]
  rfl

end IsReadBy

end Grounding

import Grounding.Files.Tree
import Grounding.Proofs.Outcome

/-!
# Laws of file trees

What is put at a place is found there, and every other place keeps what it has. `GrowsBy` compares
two trees of which the second holds all that the first holds: a path that has led to an entry leads
to the same entry for as long as the tree only grows.
-/

namespace Grounding.FileTree

variable {t t' t'' : FileTree} {p : Path} {place : FilePlace} {e : FileEntry}

/-! ### Entries -/

theorem entry?_nil : t.entry? [] = some .directory := rfl

theorem entry?_of_ne (h : place ≠ []) : t.entry? place = t.entries.lookup place := by
  unfold entry?
  rw [if_neg (by simpa using h)]

theorem ne_nil_of_entry? (h : t.entry? place ≠ some .directory) : place ≠ [] := by
  rintro rfl
  exact h rfl

theorem lookup_filter_self (es : List (FilePlace × FileEntry)) :
    (es.filter fun x => x.1 != place).lookup place = none := by
  rw [List.lookup_eq_none_iff]
  intro x hx
  have hne : x.1 ≠ place := bne_iff_ne.1 (List.mem_filter.1 hx).2
  exact bne_iff_ne.2 hne.symm

theorem lookup_filter_of_ne {other : FilePlace} (h : other ≠ place)
    (es : List (FilePlace × FileEntry)) :
    (es.filter fun x => x.1 != place).lookup other = es.lookup other := by
  induction es with
  | nil => rfl
  | cons x es ih =>
    obtain ⟨before, entry⟩ := x
    by_cases hplace : before = place
    · have hskip : (other == before) = false := by simpa [hplace] using h
      rw [List.filter_cons_of_neg (by simpa using hplace), ih, List.lookup_cons, hskip]
    · rw [List.filter_cons_of_pos (by simpa using hplace), List.lookup_cons, List.lookup_cons, ih]

theorem entry?_put_self (h : place ≠ []) : entry? (t.put place e) place = some e := by
  rw [entry?_of_ne h]
  simp [put, List.lookup_append, lookup_filter_self]

theorem entry?_put_of_ne {other : FilePlace} (h : other ≠ place) :
    entry? (t.put place e) other = t.entry? other := by
  by_cases hnil : other = []
  · rw [hnil, entry?_nil, entry?_nil]
  · have hskip : (other == place) = false := by simpa using h
    rw [entry?_of_ne hnil, entry?_of_ne hnil]
    simp [put, List.lookup_append, lookup_filter_of_ne h, List.lookup_cons, hskip]

theorem put_put (place : FilePlace) (e e' : FileEntry) :
    (t.put place e).put place e' = t.put place e' := by
  simp [put, List.filter_append]

/-! ### Paths -/

theorem child_eq_concat {name : String} (hslash : '/' ∉ name.toList) (hempty : name ≠ "")
    (hpoint : name ≠ ".") (p : Path) : p.child name = ⟨p.root, p.parts ++ [name]⟩ := by
  have hroot : Path.rootOf name.toList = .relative := by
    cases h : name.toList with
    | nil => rfl
    | cons c cs =>
      have hc : c ≠ '/' := by
        rintro rfl
        exact hslash (h ▸ List.mem_cons_self)
      unfold Path.rootOf
      split <;> simp_all
  have hparts : (Path.ofText name).parts = [name] := by
    have hwhole : name.toList.splitOn '/' = [name.toList] :=
      List.splitOnP_eq_singleton fun c hc => beq_false_of_ne fun h => hslash (h ▸ hc)
    rw [Path.ofText, hwhole]
    simp [hempty, hpoint]
  show Path.join p (Path.ofText name) = _
  rw [Path.join, show (Path.ofText name).root = .relative from hroot, hparts]

theorem hasNull_eq_false_iff : p.hasNull = false ↔ ∀ name ∈ p.parts, '\x00' ∉ name.toList := by
  simp [Path.hasNull]

theorem find_eq_ok_iff {found : Option FileEntry} : t.find p = .ok (place, found) ↔
    p.hasNull = false ∧ t.walk (t.start p) p.parts = .ok place ∧ t.entry? place = found := by
  rw [find]
  cases hnull : p.hasNull with
  | true => simp
  | false =>
    rw [if_neg Bool.false_ne_true, Outcome.exceptMap_eq_ok_iff]
    constructor
    · rintro ⟨a, hwalk, heq⟩
      obtain ⟨rfl, hfound⟩ := Prod.mk.inj heq
      exact ⟨rfl, hwalk, hfound⟩
    · rintro ⟨-, hwalk, rfl⟩
      exact ⟨place, hwalk, rfl⟩

theorem find_eq_error (hnull : p.hasNull = false) {cause : FileCause}
    (hwalk : t.walk (t.start p) p.parts = .error cause) : t.find p = .error cause := by
  rw [find, if_neg (by simp [hnull]), hwalk]
  rfl

theorem kind?_eq_some_iff {k : EntryKind} :
    t.kind? p = some k ↔ ∃ place e, t.find p = .ok (place, some e) ∧ e.kind = k := by
  rw [kind?]
  split
  · next place e hfind =>
    simp only [hfind, Except.ok.injEq, Prod.mk.injEq, Option.some.injEq]
    constructor
    · exact fun h => ⟨place, e, ⟨rfl, rfl⟩, h⟩
    · rintro ⟨_, _, ⟨-, rfl⟩, h⟩
      exact h
  · next hfind =>
    refine iff_of_false nofun ?_
    rintro ⟨place, e, h, -⟩
    exact hfind place e h

theorem kind?_eq_directory_iff :
    t.kind? p = some .directory ↔ ∃ place, t.find p = .ok (place, some .directory) := by
  rw [kind?_eq_some_iff]
  constructor
  · rintro ⟨place, e, hfind, hkind⟩
    cases e with
    | directory => exact ⟨place, hfind⟩
    | file text => cases hkind
  · rintro ⟨place, hfind⟩
    exact ⟨place, _, hfind, rfl⟩

theorem kind?_of_find (h : t.find p = .ok (place, some e)) : t.kind? p = some e.kind :=
  kind?_eq_some_iff.2 ⟨place, e, h, rfl⟩

theorem kind?_of_find_none (h : t.find p = .ok (place, none)) : t.kind? p = none := by
  rw [kind?, h]

theorem walk_cons_cons_eq_ok_iff {from_ : FilePlace} {first second : String}
    {names : List String} : t.walk from_ (first :: second :: names) = .ok place ↔
      t.entry? (step from_ first) = some .directory ∧
        t.walk (step from_ first) (second :: names) = .ok place := by
  rw [walk]
  · cases hentry : t.entry? (step from_ first) with
    | none => simp
    | some e => cases e <;> simp
  · exact nofun

def place? (t : FileTree) (p : Path) : Option FilePlace := (t.find p).toOption.map Prod.fst

theorem place?_of_find {found : Option FileEntry} (h : t.find p = .ok (place, found)) :
    t.place? p = some place := by
  rw [place?, h]
  rfl

theorem walk_concat {from_ : FilePlace} {names : List String} {name : String}
    (hwalk : t.walk from_ names = .ok place) (hdirectory : t.entry? place = some .directory) :
    t.walk from_ (names ++ [name]) = .ok (step place name) := by
  induction names generalizing from_ with
  | nil =>
    obtain rfl := Except.ok.inj hwalk
    rfl
  | cons first names ih =>
    cases names with
    | nil =>
      obtain rfl := Except.ok.inj hwalk
      simp [walk, hdirectory]
    | cons second names =>
      obtain ⟨hentry, hrest⟩ := walk_cons_cons_eq_ok_iff.1 hwalk
      exact walk_cons_cons_eq_ok_iff.2 ⟨hentry, ih hrest⟩

theorem find_concat {q : Path} {name : String} (hfind : t.find p = .ok (place, some .directory))
    (hroot : q.root = p.root) (hparts : q.parts = p.parts ++ [name]) (hnull : q.hasNull = false)
    (hname : name ≠ "..") : t.find q = .ok (place ++ [name], t.entry? (place ++ [name])) := by
  obtain ⟨-, hwalk, hdirectory⟩ := find_eq_ok_iff.1 hfind
  have hstart : t.start q = t.start p := by rw [start, start, hroot]
  have hstep : step place name = place ++ [name] := by
    rw [step, if_neg (by simpa using hname)]
  refine find_eq_ok_iff.2 ⟨hnull, ?_, rfl⟩
  rw [hstart, hparts, walk_concat hwalk hdirectory, hstep]

theorem walk_of_directories
    (h : ∀ place, t.entry? place = some .directory → t'.entry? place = some .directory)
    {from_ : FilePlace} {names : List String} (hwalk : t.walk from_ names = .ok place) :
    t'.walk from_ names = .ok place := by
  induction names generalizing from_ with
  | nil => exact hwalk
  | cons first names ih =>
    cases names with
    | nil => exact hwalk
    | cons second names =>
      obtain ⟨hentry, hrest⟩ := walk_cons_cons_eq_ok_iff.1 hwalk
      exact walk_cons_cons_eq_ok_iff.2 ⟨h _ hentry, ih hrest⟩

theorem find_of_directories (hcurrent : t'.current = t.current)
    (h : ∀ place, t.entry? place = some .directory → t'.entry? place = some .directory)
    {found : Option FileEntry} (hfind : t.find p = .ok (place, found)) :
    t'.find p = .ok (place, t'.entry? place) := by
  obtain ⟨hnull, hwalk, -⟩ := find_eq_ok_iff.1 hfind
  have hstart : t'.start p = t.start p := by rw [start, start, hcurrent]
  refine find_eq_ok_iff.2 ⟨hnull, ?_, rfl⟩
  rw [hstart]
  exact walk_of_directories h hwalk

/-! ### Growth -/

/-- The second tree differs from the first only in entries at places where there was nothing, each
of which is of some kind. -/
def GrowsBy (P : FilePlace → FileEntry → Prop) (t t' : FileTree) : Prop :=
  t'.current = t.current ∧ ∀ place, t'.entry? place = t.entry? place ∨
    t.entry? place = none ∧ ∃ e, t'.entry? place = some e ∧ P place e

variable {P Q : FilePlace → FileEntry → Prop}

theorem growsBy_refl : GrowsBy P t t := ⟨rfl, fun _ => .inl rfl⟩

theorem GrowsBy.imp (h : GrowsBy P t t') (hPQ : ∀ place e, P place e → Q place e) :
    GrowsBy Q t t' := by
  refine ⟨h.1, fun place => (h.2 place).imp id ?_⟩
  rintro ⟨hnone, e, he, hP⟩
  exact ⟨hnone, e, he, hPQ place e hP⟩

theorem GrowsBy.trans (h : GrowsBy P t t') (h' : GrowsBy P t' t'') : GrowsBy P t t'' := by
  refine ⟨h'.1.trans h.1, fun place => ?_⟩
  rcases h.2 place with hsame | ⟨hnone, e, he, hP⟩
  · rw [← hsame]
    exact h'.2 place
  · rcases h'.2 place with hsame' | ⟨hnone', -⟩
    · exact .inr ⟨hnone, e, hsame'.trans he, hP⟩
    · rw [he] at hnone'
      cases hnone'

theorem growsBy_put (hnone : t.entry? place = none) (hP : P place e) :
    GrowsBy P t (t.put place e) := by
  refine ⟨rfl, fun other => ?_⟩
  by_cases hother : other = place
  · subst hother
    have hne : other ≠ [] := ne_nil_of_entry? (by rw [hnone]; nofun)
    exact .inr ⟨hnone, e, entry?_put_self hne, hP⟩
  · exact .inl (entry?_put_of_ne hother)

theorem GrowsBy.keeps (h : GrowsBy P t t') (he : t.entry? place = some e) :
    t'.entry? place = some e := by
  rcases h.2 place with hsame | ⟨hnone, -⟩
  · rw [hsame, he]
  · rw [he] at hnone
    cases hnone

theorem GrowsBy.eq_none (h : GrowsBy P t t') (hnone : t'.entry? place = none) :
    t.entry? place = none := by
  cases he : t.entry? place with
  | none => rfl
  | some e =>
    rw [h.keeps he] at hnone
    cases hnone

theorem GrowsBy.find (h : GrowsBy P t t') {found : Option FileEntry}
    (hfind : t.find p = .ok (place, found)) : t'.find p = .ok (place, t'.entry? place) :=
  find_of_directories h.1 (fun _ he => h.keeps he) hfind

theorem GrowsBy.find_some (h : GrowsBy P t t') (hfind : t.find p = .ok (place, some e)) :
    t'.find p = .ok (place, some e) := by
  rw [h.find hfind, h.keeps (find_eq_ok_iff.1 hfind).2.2]

theorem GrowsBy.kind? (h : GrowsBy P t t') {k : EntryKind} (hkind : t.kind? p = some k) :
    t'.kind? p = some k := by
  obtain ⟨place, e, hfind, rfl⟩ := kind?_eq_some_iff.1 hkind
  exact kind?_of_find (h.find_some hfind)

/-! ### Changes -/

theorem makeDirectory_eq_ok_iff : t.makeDirectory p = .ok t' ↔
    ∃ place, t.find p = .ok (place, none) ∧ t' = t.put place .directory := by
  rw [makeDirectory]
  split
  · next hfind =>
    rw [hfind]
    exact iff_of_false nofun (by rintro ⟨_, h, -⟩; cases h)
  · next place hfind =>
    rw [hfind]
    constructor
    · exact fun h => ⟨place, rfl, (Except.ok.inj h).symm⟩
    · rintro ⟨_, h, rfl⟩
      cases h
      rfl
  · next hfind =>
    rw [hfind]
    exact iff_of_false nofun (by rintro ⟨_, h, -⟩; cases h)

theorem makeDirectory_of_exists (h : t.find p = .ok (place, some e)) :
    t.makeDirectory p = .error .alreadyExists := by
  rw [makeDirectory, h]

theorem write_eq_ok_iff {text : String} : t.write p text = .ok t' ↔
    ∃ place found, t.find p = .ok (place, found) ∧ found ≠ some .directory ∧
      t' = t.put place (.file text) := by
  rw [write]
  split
  · next hfind =>
    rw [hfind]
    refine iff_of_false nofun ?_
    rintro ⟨_, _, h, hne, -⟩
    cases h
    exact hne rfl
  · next place found hne hfind =>
    rw [hfind]
    constructor
    · intro h
      refine ⟨place, found, rfl, ?_, (Except.ok.inj h).symm⟩
      rintro rfl
      exact hne rfl
    · rintro ⟨_, _, h, -, rfl⟩
      cases h
      rfl
  · next hfind =>
    rw [hfind]
    exact iff_of_false nofun (by rintro ⟨_, _, h, -⟩; cases h)

theorem find_put_file {q : Path} {at_ : FilePlace} {text : String} {found : Option FileEntry}
    (hat : t.entry? at_ ≠ some .directory) (hfind : t.find q = .ok (place, found)) :
    (t.put at_ (.file text)).find q = .ok (place, entry? (t.put at_ (.file text)) place) := by
  have hcurrent : (t.put at_ (.file text)).current = t.current := rfl
  refine find_of_directories hcurrent (fun other hother => ?_) hfind
  have hne : other ≠ at_ := by
    rintro rfl
    exact hat hother
  rw [entry?_put_of_ne hne, hother]

theorem find_put_file_of_ne {q : Path} {at_ : FilePlace} {text : String} {found : Option FileEntry}
    (hat : t.entry? at_ ≠ some .directory) (hfind : t.find q = .ok (place, found))
    (hne : place ≠ at_) : (t.put at_ (.file text)).find q = .ok (place, found) := by
  rw [find_put_file hat hfind, entry?_put_of_ne hne, (find_eq_ok_iff.1 hfind).2.2]

end Grounding.FileTree

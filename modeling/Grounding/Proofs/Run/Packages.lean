import Grounding.Proofs.Files.Access
import Grounding.Run

/-!
# Packages of a driver

On the way to the package of a driver each part of its name is joined to the path so far, and each
of these directories gets a marker unless it has one. What that does to a tree is an invariant of
the parts that are done: the tree grows by directories and by the markers that are reported, and a
marker is reported once.
-/

namespace Grounding.Run

open FileTree Outcome

variable {t t' : FileTree} {directory : Path} {parts : List String} {markers : List Path}

/-! ### Steps of a run -/

theorem files_run_eq_ok_iff {α : Type} {action : StateM FileTree (Except FileError α)} {a : α} :
    (files action).run t = (.ok a, t') ↔ action.run t = (.ok a, t') := by
  show (do return (← action).mapError RunError.file : StateM FileTree _).run t = _ ↔ _
  rw [StateT.run_bind]
  rcases action.run t with ⟨e | b, t₁⟩
  · exact iff_of_false (fun h => nomatch (Prod.mk.inj h).1) fun h => nomatch (Prod.mk.inj h).1
  · constructor <;> intro h <;> cases h <;> rfl

theorem asking_kind?_run_eq_ok_iff {p : Path} {k : Option EntryKind} :
    (asking (FileAccess.kind? p) : ExceptT RunError (StateM FileTree) _).run t = (.ok k, t') ↔
      t.kind? p = k ∧ t = t' := by
  constructor <;> intro h
  · cases h
    exact ⟨rfl, rfl⟩
  · obtain ⟨rfl, rfl⟩ := h
    rfl

theorem write_run_eq_ok_iff {p : Path} {text : String} :
    (FileAccess.write p text : StateM FileTree _).run t = (.ok (), t') ↔
      t.write p text = .ok t' := by
  show (change p (FileTree.write p text)).run t = _ ↔ _
  rw [change_run]
  cases h : t.write p text with
  | error cause => exact iff_of_false (fun h => nomatch (Prod.mk.inj h).1) nofun
  | ok written =>
    constructor <;> intro h <;> cases h <;> rfl

/-! ### Markers -/

def markerPath (package : Path) : Path := package.child markerName

theorem markerPath_eq (package : Path) :
    markerPath package = ⟨package.root, package.parts ++ [markerName]⟩ := rfl

theorem ensureMarker_run_eq_ok_iff {marker : Path} {made : List Path} :
    (ensureMarker marker : ExceptT RunError (StateM FileTree) _).run t = (.ok made, t') ↔
      (∃ k, t.kind? marker = some k) ∧ made = [] ∧ t' = t ∨
      t.kind? marker = none ∧ made = [marker] ∧
        ∃ place, t.find marker = .ok (place, none) ∧ t' = t.put place (.file "") := by
  rw [ensureMarker, run_bind_eq_ok_iff]
  simp only [asking_kind?_run_eq_ok_iff]
  cases hkind : t.kind? marker with
  | some k =>
    constructor
    · rintro ⟨_, _, ⟨rfl, rfl⟩, h⟩
      obtain ⟨rfl, rfl⟩ := run_pure_eq_ok_iff.1 h
      exact .inl ⟨⟨k, rfl⟩, rfl, rfl⟩
    · rintro (⟨-, rfl, rfl⟩ | ⟨h, -⟩)
      · exact ⟨_, _, ⟨rfl, rfl⟩, rfl⟩
      · cases h
  | none =>
    have hfree : ∀ {place found}, t.find marker = .ok (place, found) → found = none := by
      intro place found hfind
      cases found with
      | none => rfl
      | some e =>
        rw [kind?_of_find hfind] at hkind
        cases hkind
    constructor
    · rintro ⟨_, _, ⟨rfl, rfl⟩, h⟩
      obtain ⟨_, t₁, hwrite, hdone⟩ := run_bind_eq_ok_iff.1 h
      obtain ⟨rfl, rfl⟩ := run_pure_eq_ok_iff.1 hdone
      obtain ⟨place, found, hfind, -, rfl⟩ :=
        write_eq_ok_iff.1 (write_run_eq_ok_iff.1 (files_run_eq_ok_iff.1 hwrite))
      obtain rfl := hfree hfind
      exact .inr ⟨rfl, rfl, place, hfind, rfl⟩
    · rintro (⟨⟨k, h⟩, -⟩ | ⟨-, rfl, place, hfind, rfl⟩)
      · cases h
      · refine ⟨_, _, ⟨rfl, rfl⟩, run_bind_eq_ok_iff.2 ⟨(), _, ?_, rfl⟩⟩
        refine files_run_eq_ok_iff.2 (write_run_eq_ok_iff.2 ?_)
        exact write_eq_ok_iff.2 ⟨place, none, hfind, nofun, rfl⟩

/-! ### Packages -/

def packageDirectories (directory : Path) : List String → List Path
  | [] => []
  | part :: rest => directory.child part :: packageDirectories (directory.child part) rest

theorem getLastD_packageDirectories (directory : Path) (parts : List String) :
    (packageDirectories directory parts).getLastD directory = parts.foldl Path.child directory := by
  induction parts generalizing directory with
  | nil => rfl
  | cons part rest ih => rw [packageDirectories, List.getLastD_cons, ih, List.foldl_cons]

theorem ensurePackages_cons_run_eq_ok_iff {part : String} :
    (ensurePackages directory (part :: parts) : ExceptT RunError (StateM FileTree) _).run t =
        (.ok markers, t') ↔
      ∃ t₁ made t₂ others,
        (FileAccess.ensureDirectory (directory.child part) : StateM FileTree _).run t =
          (.ok (), t₁) ∧
        (ensureMarker (markerPath (directory.child part)) :
          ExceptT RunError (StateM FileTree) _).run t₁ = (.ok made, t₂) ∧
        (ensurePackages (directory.child part) parts :
          ExceptT RunError (StateM FileTree) _).run t₂ = (.ok others, t') ∧
        markers = made ++ others := by
  simp only [ensurePackages, run_bind_eq_ok_iff, files_run_eq_ok_iff, run_pure_eq_ok_iff]
  constructor
  · rintro ⟨_, t₁, hdirectory, made, t₂, hmarker, others, _, hothers, rfl, rfl⟩
    exact ⟨t₁, made, t₂, others, hdirectory, hmarker, hothers, rfl⟩
  · rintro ⟨t₁, made, t₂, others, hdirectory, hmarker, hothers, rfl⟩
    exact ⟨(), t₁, hdirectory, made, t₂, hmarker, others, t', hothers, rfl, rfl⟩

def IsPackage (t : FileTree) (package : Path) : Prop :=
  t.kind? package = some .directory ∧ ∃ k, t.kind? (markerPath package) = some k

theorem find_markerPath {package : Path} {place : FilePlace}
    (h : t.find package = .ok (place, some .directory)) : t.find (markerPath package) =
      .ok (place ++ [markerName], t.entry? (place ++ [markerName])) := by
  refine find_concat h rfl rfl ?_ (by decide)
  have hnull := hasNull_eq_false_iff.1 (find_eq_ok_iff.1 h).1
  rw [hasNull_eq_false_iff, markerPath_eq]
  intro name hname
  rcases List.mem_append.1 hname with hname | hname
  · exact hnull name hname
  · rw [List.mem_singleton.1 hname]
    decide

theorem IsPackage.find {package : Path} (h : IsPackage t package) : ∃ place e,
    t.find package = .ok (place, some .directory) ∧
      t.find (markerPath package) = .ok (place ++ [markerName], some e) := by
  obtain ⟨hkind, k, hmarker⟩ := h
  obtain ⟨place, hfind⟩ := kind?_eq_directory_iff.1 hkind
  obtain ⟨other, e, hfound, -⟩ := kind?_eq_some_iff.1 hmarker
  rw [find_markerPath hfind] at hfound
  obtain ⟨-, he⟩ := Prod.mk.inj (Except.ok.inj hfound)
  exact ⟨place, e, hfind, by rw [find_markerPath hfind, he]⟩

theorem isPackage_of_find {package : Path} {place other : FilePlace} {e : FileEntry}
    (hfind : t.find package = .ok (place, some .directory))
    (hmarker : t.find (markerPath package) = .ok (other, some e)) : IsPackage t package :=
  ⟨kind?_of_find hfind, e.kind, kind?_of_find hmarker⟩

/-- Between two trees these directories have become packages, by way of these new markers. -/
structure MakesPackages (directories made : List Path) (t t' : FileTree) : Prop where
  grows : GrowsBy (fun place e => e = .directory ∨
    e = .file "" ∧ some place ∈ made.map t'.place?) t t'
  packages : ∀ directory ∈ directories, IsPackage t' directory
  markers : ∀ marker ∈ made, (∃ directory ∈ directories, marker = markerPath directory) ∧
    ∃ place, t'.find marker = .ok (place, some (.file "")) ∧ t.entry? place = none
  distinct : (made.map t'.place?).Nodup

theorem MakesPackages.cons_there {package : Path} {directories made : List Path} {t₁ : FileTree}
    {P : FilePlace → FileEntry → Prop} (hP : ∀ place e, P place e → e = .directory)
    (hgrows : GrowsBy P t t₁) (hpackage : IsPackage t₁ package)
    (h : MakesPackages directories made t₁ t') :
    MakesPackages (package :: directories) made t t' := by
  obtain ⟨hkind, k, hmarker⟩ := hpackage
  refine ⟨?_, ?_, ?_, h.distinct⟩
  · exact (hgrows.imp fun place e he => .inl (hP place e he)).trans h.grows
  · intro directory hmem
    rcases List.mem_cons.1 hmem with rfl | hmem
    · exact ⟨h.grows.kind? hkind, k, h.grows.kind? hmarker⟩
    · exact h.packages directory hmem
  · intro marker hmem
    obtain ⟨⟨directory, hdirectory, heq⟩, place, hfind, hnone⟩ := h.markers marker hmem
    exact ⟨⟨directory, List.mem_cons_of_mem _ hdirectory, heq⟩, place, hfind,
      hgrows.eq_none hnone⟩

theorem MakesPackages.cons_made {package : Path} {directories made : List Path} {t₁ : FileTree}
    {P : FilePlace → FileEntry → Prop} {place : FilePlace}
    (hP : ∀ place e, P place e → e = .directory) (hgrows : GrowsBy P t t₁)
    (hkind : t₁.kind? package = some .directory)
    (hfind : t₁.find (markerPath package) = .ok (place, none))
    (h : MakesPackages directories made (t₁.put place (.file "")) t') :
    MakesPackages (package :: directories) (markerPath package :: made) t t' := by
  have hnone : t₁.entry? place = none := (find_eq_ok_iff.1 hfind).2.2
  have hne : place ≠ [] := ne_nil_of_entry? (by rw [hnone]; nofun)
  have hput : GrowsBy (fun other e => e = .file "" ∧ other = place) t₁
      (t₁.put place (.file "")) := growsBy_put hnone ⟨rfl, rfl⟩
  have hfound := hput.find hfind
  rw [entry?_put_self hne] at hfound
  have hmarker := h.grows.find_some hfound
  have hplace := place?_of_find hmarker
  refine ⟨?_, ?_, ?_, ?_⟩
  · refine (hgrows.imp fun other e he => .inl (hP other e he)).trans
      ((hput.imp ?_).trans (h.grows.imp ?_))
    · rintro other e ⟨rfl, rfl⟩
      exact .inr ⟨rfl, by rw [List.map_cons, hplace]; exact List.mem_cons_self⟩
    · rintro other e (rfl | ⟨rfl, hmem⟩)
      · exact .inl rfl
      · exact .inr ⟨rfl, List.mem_cons_of_mem _ hmem⟩
  · intro directory hmem
    rcases List.mem_cons.1 hmem with rfl | hmem
    · exact ⟨h.grows.kind? (hput.kind? hkind), _, kind?_of_find hmarker⟩
    · exact h.packages directory hmem
  · intro marker hmem
    rcases List.mem_cons.1 hmem with rfl | hmem
    · exact ⟨⟨package, List.mem_cons_self, rfl⟩, place, hmarker, hgrows.eq_none hnone⟩
    · obtain ⟨⟨directory, hdirectory, heq⟩, other, hother, hfree⟩ := h.markers marker hmem
      exact ⟨⟨directory, List.mem_cons_of_mem _ hdirectory, heq⟩, other, hother,
        hgrows.eq_none (hput.eq_none hfree)⟩
  · -- The later markers were made where there was nothing, and at this place there is a file.
    rw [List.map_cons, List.nodup_cons]
    refine ⟨?_, h.distinct⟩
    intro hmem
    obtain ⟨marker, hmarker', heq⟩ := List.mem_map.1 hmem
    obtain ⟨-, other, hother, hfree⟩ := h.markers marker hmarker'
    rw [hplace, place?_of_find hother] at heq
    rw [Option.some.inj heq, entry?_put_self hne] at hfree
    cases hfree

theorem makesPackages_of_ensurePackages
    (h : (ensurePackages directory parts : ExceptT RunError (StateM FileTree) _).run t =
      (.ok markers, t')) : MakesPackages (packageDirectories directory parts) markers t t' := by
  induction parts generalizing directory t markers with
  | nil =>
    obtain ⟨rfl, rfl⟩ := run_pure_eq_ok_iff.1 h
    exact ⟨growsBy_refl, nofun, nofun, .nil⟩
  | cons part parts ih =>
    obtain ⟨t₁, made, t₂, others, hdirectory, hmarker, hothers, rfl⟩ :=
      ensurePackages_cons_run_eq_ok_iff.1 h
    obtain ⟨hgrows, hkind⟩ := growsBy_of_ensureDirectory hdirectory
    rcases ensureMarker_run_eq_ok_iff.1 hmarker with
      ⟨hthere, rfl, rfl⟩ | ⟨-, rfl, place, hfind, rfl⟩
    · exact (ih hothers).cons_there (fun _ _ he => he.1) hgrows ⟨hkind, hthere⟩
    · exact (ih hothers).cons_made (fun _ _ he => he.1) hgrows hkind hfind

theorem ensurePackages_of_isPackage
    (h : ∀ package ∈ packageDirectories directory parts, IsPackage t package) :
    (ensurePackages directory parts : ExceptT RunError (StateM FileTree) _).run t =
      (.ok [], t) := by
  induction parts generalizing directory with
  | nil => rfl
  | cons part parts ih =>
    rw [packageDirectories, List.forall_mem_cons] at h
    obtain ⟨⟨hkind, hmarker⟩, hothers⟩ := h
    exact ensurePackages_cons_run_eq_ok_iff.2 ⟨t, [], t, [], ensureDirectory_of_directory hkind,
      ensureMarker_run_eq_ok_iff.2 (.inl ⟨hmarker, rfl, rfl⟩), ih hothers, rfl⟩

end Grounding.Run

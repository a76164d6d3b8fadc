import Grounding.Proofs.Files.Tree

/-!
# Access to the files of a tree

Making sure of a directory either finds it, and then nothing changes, or makes it at a place where
there was nothing. The same holds of a directory with all those above it, so that a tree grows by
directories only.
-/

namespace Grounding.FileTree

open FileAccess

variable {t t' : FileTree} {p : Path}

theorem change_run {f : FileTree → Except FileCause FileTree} : (change p f).run t =
    match f t with
    | .ok t' => (.ok (), t')
    | .error cause => (.error ⟨cause, p⟩, t) := by
  cases h : f t <;> simp [change, h] <;> rfl

theorem ensureDirectory_run : (ensureDirectory p : StateM FileTree _).run t =
    match t.makeDirectory p with
    | .ok t' => (.ok (), t')
    | .error cause =>
      if cause != .noEntry && t.kind? p == some .directory then (.ok (), t)
      else (.error ⟨cause, p⟩, t) := by
  rw [ensureDirectory]
  show StateT.run (change p (makeDirectory p) >>= _) t = _
  rw [StateT.run_bind, change_run]
  cases h : t.makeDirectory p with
  | ok t' => rfl
  | error cause =>
    show (if (cause != .noEntry && t.kind? p == some .directory) = true then pure (.ok ())
      else pure (.error ⟨cause, p⟩) : StateM FileTree (Except FileError Unit)).run t = _
    rw [apply_ite (fun x : StateM FileTree (Except FileError Unit) => x.run t)]
    rfl

theorem ensureDirectory_run_eq_ok_iff :
    (ensureDirectory p : StateM FileTree _).run t = (.ok (), t') ↔
      (t.kind? p = some .directory ∧ t' = t) ∨
        ∃ place, t.find p = .ok (place, none) ∧ t' = t.put place .directory := by
  rw [ensureDirectory_run]
  cases h : t.makeDirectory p with
  | ok made =>
    obtain ⟨place, hfind, rfl⟩ := makeDirectory_eq_ok_iff.1 h
    have hkind : t.kind? p ≠ some .directory := by
      simp only [kind?, hfind, ne_eq, reduceCtorEq, not_false_eq_true]
    constructor
    · intro hrun
      exact .inr ⟨place, hfind, (Prod.mk.inj hrun).2.symm⟩
    · rintro (⟨hdirectory, -⟩ | ⟨other, hother, rfl⟩)
      · exact absurd hdirectory hkind
      · rw [hfind] at hother
        cases hother
        rfl
  | error cause =>
    have hfree : ∀ place, t.find p ≠ .ok (place, none) := by
      intro place hfind
      rw [makeDirectory_eq_ok_iff.2 ⟨place, hfind, rfl⟩] at h
      cases h
    have hcause : t.kind? p = some .directory → cause ≠ .noEntry := by
      intro hkind
      obtain ⟨place, hfind⟩ := kind?_eq_directory_iff.1 hkind
      rw [makeDirectory_of_exists hfind] at h
      cases h
      decide
    by_cases hkind : t.kind? p = some .directory
    · have hthere : (cause != .noEntry && t.kind? p == some .directory) = true := by
        simp [hkind, hcause hkind]
      simp only [hthere, if_true]
      constructor
      · intro hrun
        exact .inl ⟨hkind, (Prod.mk.inj hrun).2.symm⟩
      · rintro (⟨-, rfl⟩ | ⟨place, hfind, -⟩)
        · rfl
        · exact absurd hfind (hfree place)
    · have habsent : (cause != .noEntry && t.kind? p == some .directory) = false := by
        simp [hkind]
      simp only [habsent]
      refine iff_of_false (fun hrun => by cases (Prod.mk.inj hrun).1) ?_
      rintro (⟨hdirectory, -⟩ | ⟨place, hfind, -⟩)
      · exact hkind hdirectory
      · exact hfree place hfind

theorem ensureDirectory_run_error {e : FileError}
    (h : (ensureDirectory p : StateM FileTree _).run t = (.error e, t')) : t' = t := by
  rw [ensureDirectory_run] at h
  split at h
  · cases h
  · split at h
    · cases h
    · exact (Prod.mk.inj h).2.symm

theorem ensureDirectory_of_directory (h : t.kind? p = some .directory) :
    (ensureDirectory p : StateM FileTree _).run t = (.ok (), t) :=
  ensureDirectory_run_eq_ok_iff.2 (.inl ⟨h, rfl⟩)

theorem growsBy_of_ensureDirectory
    (h : (ensureDirectory p : StateM FileTree _).run t = (.ok (), t')) :
    GrowsBy (fun place e => e = .directory ∧ t.find p = .ok (place, none)) t t' ∧
      t'.kind? p = some .directory := by
  rcases ensureDirectory_run_eq_ok_iff.1 h with ⟨hkind, rfl⟩ | ⟨place, hfind, rfl⟩
  · exact ⟨growsBy_refl, hkind⟩
  · have hnone : t.entry? place = none := (find_eq_ok_iff.1 hfind).2.2
    have hne : place ≠ [] := ne_nil_of_entry? (by rw [hnone]; nofun)
    have hgrows : GrowsBy (fun place e => e = .directory ∧ t.find p = .ok (place, none)) t
        (t.put place .directory) := growsBy_put hnone ⟨rfl, hfind⟩
    have hfound := hgrows.find hfind
    rw [entry?_put_self hne] at hfound
    exact ⟨hgrows, kind?_of_find hfound⟩

theorem ensureDirectories_succ_run {names : Nat} :
    (ensureDirectories p (names + 1) : StateM FileTree _).run t =
      match (ensureDirectory p : StateM FileTree _).run t with
      | (.ok (), t₁) => (.ok (), t₁)
      | (.error e, t₁) =>
        if e.cause != .noEntry || p.parts.isEmpty then (.error e, t₁)
        else
          match (ensureDirectories p.parent names : StateM FileTree _).run t₁ with
          | (.ok (), t₂) => (ensureDirectory p : StateM FileTree _).run t₂
          | (.error e, t₂) => (.error e, t₂) := by
  rw [ensureDirectories, StateT.run_bind]
  rcases (ensureDirectory p : StateM FileTree _).run t with ⟨_ | ⟨⟩, t₁⟩
  · next e =>
    show (if (e.cause != .noEntry || p.parts.isEmpty) = true then _ else _ :
      StateM FileTree (Except FileError Unit)).run t₁ = _
    rw [apply_ite (fun x : StateM FileTree (Except FileError Unit) => x.run t₁)]
    congr 1
    rw [StateT.run_bind]
    rcases (ensureDirectories p.parent names : StateM FileTree _).run t₁ with ⟨_ | ⟨⟩, t₂⟩ <;> rfl
  · rfl

theorem ensureDirectories_of_directory {names : Nat} (h : t.kind? p = some .directory) :
    (ensureDirectories p names : StateM FileTree _).run t = (.ok (), t) := by
  cases names with
  | zero => exact ensureDirectory_of_directory h
  | succ names => rw [ensureDirectories_succ_run, ensureDirectory_of_directory h]

theorem ensureDirectories_of_ensureDirectory {names : Nat}
    (h : (ensureDirectory p : StateM FileTree _).run t = (.ok (), t')) :
    (ensureDirectories p names : StateM FileTree _).run t = (.ok (), t') := by
  cases names with
  | zero => exact h
  | succ names => rw [ensureDirectories_succ_run, h]

theorem ensureDirectories_of_parent {names : Nat} {t₁ : FileTree} (hparts : p.parts ≠ [])
    (hfind : t.find p = .error .noEntry)
    (habove : (ensureDirectories p.parent names : StateM FileTree _).run t = (.ok (), t₁))
    (h : (ensureDirectory p : StateM FileTree _).run t₁ = (.ok (), t')) :
    (ensureDirectories p (names + 1) : StateM FileTree _).run t = (.ok (), t') := by
  have hmissing : (ensureDirectory p : StateM FileTree _).run t =
      (.error ⟨.noEntry, p⟩, t) := by
    rw [ensureDirectory_run, makeDirectory, hfind]
    rfl
  rw [ensureDirectories_succ_run, hmissing]
  simp only [bne_self_eq_false, List.isEmpty_eq_false_iff.2 hparts, Bool.or_self,
    Bool.false_eq_true, if_false, habove, h]

/-- A tree grows by directories alone if a directory is made sure of with those above it. -/
theorem growsBy_of_ensureDirectories {names : Nat}
    (h : (ensureDirectories p names : StateM FileTree _).run t = (.ok (), t')) :
    GrowsBy (fun _ e => e = .directory) t t' ∧ t'.kind? p = some .directory := by
  have hone : ∀ {q : Path} {t₁ t₂ : FileTree},
      (ensureDirectory q : StateM FileTree _).run t₁ = (.ok (), t₂) →
        GrowsBy (fun _ e => e = .directory) t₁ t₂ ∧ t₂.kind? q = some .directory := by
    intro q t₁ t₂ h
    obtain ⟨hgrows, hkind⟩ := growsBy_of_ensureDirectory h
    exact ⟨hgrows.imp fun _ _ he => he.1, hkind⟩
  induction names generalizing p t' with
  | zero => exact hone h
  | succ names ih =>
    rw [ensureDirectories_succ_run] at h
    split at h
    · next t₁ hrun =>
      obtain rfl := (Prod.mk.inj h).2
      exact hone hrun
    · next e t₁ hrun =>
      obtain rfl := ensureDirectory_run_error hrun
      split at h
      · cases h
      · split at h
        · next t₂ habove =>
          obtain ⟨hgrows, -⟩ := ih habove
          obtain ⟨hgrows', hkind⟩ := hone h
          exact ⟨hgrows.trans hgrows', hkind⟩
        · cases h

end Grounding.FileTree

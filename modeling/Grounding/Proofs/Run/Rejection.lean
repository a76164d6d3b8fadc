import Grounding.Proofs.Driver.Completion
import Grounding.Proofs.Run.Changes

/-!
# What a rejected suite costs

A suite is rejected before anything of its driver is written, but the file of the driver has been
opened by then. So a run that ends this way leaves an empty file where the driver of an earlier run
may have been (`runOn_rejected`), and keeps all else that was there.
-/

namespace Grounding

open FileTree Outcome Run

variable {c : Config} {root : Path} {s : TestSuite} {generatedAt : Moment} {t t' : FileTree}
  {e : GroundError}

/-! ### Faults of a suite -/

/-- The faults that are found before anything is written. -/
inductive GroundError.IsRejection : GroundError → Prop
  | noOperation (step : String) (sequence : Nat) : IsRejection (.noOperation step sequence)
  | descriptor (e : DescriptorError) : IsRejection (.fault (.descriptor e))

/-- A suite that is rejected fails its checks, and nothing is written of its driver. -/
theorem TestSuite.ground_of_isRejection {o : DriverOptions} (he : e.IsRejection)
    (h : (s.ground o).result = .error e) : s.prepare o = .error e ∧ (s.ground o).text = "" := by
  cases hprepare : s.prepare o with
  | error e' =>
    rw [ground, hprepare] at h ⊢
    exact ⟨h, rfl⟩
  | ok r =>
    obtain ⟨hops, hanalyse⟩ := prepare_eq_ok_iff.1 hprepare
    rcases ground_result_of_analyse hops hanalyse with hok | ⟨_, he'⟩ | he'
    · rw [hok] at h
      cases h
    all_goals
      rw [he'] at h
      obtain rfl := Except.error.inj h
      cases he

/-! ### Faults of a run -/

/-- No fault of a part of a run is one of a suite. -/
def Run.GroundsNothing {α : Type} (x : ExceptT RunError (StateM FileTree) α) : Prop :=
  ∀ t t' e, x.run t ≠ (.error (.ground e), t')

namespace Run

theorem groundsNothing_pure {α : Type} (a : α) :
    GroundsNothing (pure a : ExceptT RunError (StateM FileTree) α) :=
  fun _ _ _ h => nomatch (Prod.mk.inj h).1

theorem GroundsNothing.bind {α β : Type} {x : ExceptT RunError (StateM FileTree) α}
    {k : α → ExceptT RunError (StateM FileTree) β} (hx : GroundsNothing x)
    (hk : ∀ a, GroundsNothing (k a)) : GroundsNothing (x >>= k) := by
  intro t t' e h
  rcases run_bind_eq_error_iff.1 h with h | ⟨a, t₁, -, h⟩
  · exact hx t t' e h
  · exact hk a t₁ t' e h

theorem groundsNothing_files {α : Type} (action : StateM FileTree (Except FileError α)) :
    GroundsNothing (files action) := by
  intro t t' e
  show (do return (← action).mapError RunError.file : StateM FileTree _).run t ≠ _
  rw [StateT.run_bind]
  rcases action.run t with ⟨_ | _, t₁⟩ <;> exact fun h => nomatch (Prod.mk.inj h).1

theorem groundsNothing_asking {α : Type} (action : StateM FileTree α) :
    GroundsNothing (asking action) :=
  fun _ _ _ h => nomatch (Prod.mk.inj h).1

theorem groundsNothing_ensureMarker (marker : Path) : GroundsNothing (ensureMarker marker) := by
  refine (groundsNothing_asking _).bind fun k => ?_
  cases k with
  | some k => exact groundsNothing_pure _
  | none => exact (groundsNothing_files _).bind fun _ => groundsNothing_pure _

theorem groundsNothing_ensurePackages (directory : Path) (parts : List String) :
    GroundsNothing (ensurePackages directory parts) := by
  induction parts generalizing directory with
  | nil => exact groundsNothing_pure _
  | cons part parts ih =>
    refine (groundsNothing_files _).bind fun _ => ?_
    refine (groundsNothing_ensureMarker _).bind fun _ => ?_
    exact (ih _).bind fun _ => groundsNothing_pure _

theorem writeDriver_run_eq_ground_iff {path : Path} {g : Grounded} :
    (writeDriver path g : ExceptT RunError (StateM FileTree) _).run t = (.error (.ground e), t') ↔
      t.write path g.text = .ok t' ∧ g.result = .error e := by
  rw [writeDriver, run_bind_eq_error_iff, or_iff_right (groundsNothing_files _ _ _ _)]
  simp only [files_run_eq_ok_iff]
  cases hresult : g.result with
  | ok record =>
    constructor
    · rintro ⟨⟨⟩, t₁, -, h⟩
      cases h
    · rintro ⟨-, h⟩
      cases h
  | error e' =>
    constructor
    · rintro ⟨⟨⟩, t₁, hwrite, h⟩
      cases h
      exact ⟨write_run_eq_ok_iff.1 hwrite, rfl⟩
    · rintro ⟨hwrite, h⟩
      obtain rfl := Except.error.inj h
      exact ⟨(), t', write_run_eq_ok_iff.2 hwrite, rfl⟩

end Run

theorem Config.resolve_ne_ground : c.resolve s ≠ .error (.ground e) := by
  unfold Config.resolve
  intro h
  dsimp only at h
  split at h <;> cases h

/-- A run ends with a fault of the suite when it comes to the driver, and the driver to that
fault. -/
theorem runOn_eq_ground_iff : c.runOn root s generatedAt t = (.error (.ground e), t') ↔
    ∃ o, c.resolve s = .ok o ∧ t.kind? (o.outputPath root) ≠ some .file ∧
      ∃ t₁, (FileAccess.ensureDirectories (o.outputPath root) (o.outputPath root).parts.length :
          StateM FileTree _).run t = (.ok (), t₁) ∧
        ∃ markers t₂, (ensurePackages (o.outputPath root) (packageParts o.targetPackage) :
            ExceptT RunError (StateM FileTree) _).run t₁ = (.ok markers, t₂) ∧
          t₂.write (o.driverPath root s) (s.ground (o.driverOptions generatedAt)).text = .ok t' ∧
          (s.ground (o.driverOptions generatedAt)).result = .error e := by
  unfold Config.runOn Config.run
  cases hresolve : c.resolve s with
  | error e' =>
    refine iff_of_false (fun h => ?_) fun ⟨_, h, _⟩ => nomatch h
    cases h
    exact Config.resolve_ne_ground hresolve
  | ok o =>
    simp only [pure_bind]
    rw [run_bind_eq_error_iff, or_iff_right (groundsNothing_asking _ _ _ _)]
    simp only [asking_kind?_run_eq_ok_iff]
    constructor
    · rintro ⟨k, _, ⟨rfl, rfl⟩, h⟩
      by_cases hfile : t.kind? (o.outputPath root) = some .file
      · rw [hfile] at h
        cases h
      · rw [if_neg (by simpa using hfile)] at h
        obtain ⟨⟨⟩, t₁, houtput, h⟩ :=
          (run_bind_eq_error_iff.1 h).resolve_left (groundsNothing_files _ _ _ _)
        obtain ⟨markers, t₂, hpackages, h⟩ :=
          (run_bind_eq_error_iff.1 h).resolve_left (groundsNothing_ensurePackages _ _ _ _ _)
        rcases run_bind_eq_error_iff.1 h with h | ⟨_, _, -, h⟩
        · exact ⟨o, rfl, hfile, t₁, files_run_eq_ok_iff.1 houtput, markers, t₂, hpackages,
            writeDriver_run_eq_ground_iff.1 h⟩
        · cases h
    · rintro ⟨_, ho, hfile, t₁, houtput, markers, t₂, hpackages, hdriver⟩
      obtain rfl := Except.ok.inj ho
      refine ⟨_, _, ⟨rfl, rfl⟩, ?_⟩
      rw [if_neg (by simpa using hfile)]
      exact run_bind_eq_error_iff.2 (.inr ⟨(), t₁, files_run_eq_ok_iff.2 houtput,
        run_bind_eq_error_iff.2 (.inr ⟨markers, t₂, hpackages, run_bind_eq_error_iff.2
          (.inl (writeDriver_run_eq_ground_iff.2 hdriver))⟩)⟩)

/-! ### What is left -/

/-- A run of a suite that is rejected leaves an empty file in place of the driver, and every other
entry as it was. -/
theorem runOn_rejected (he : e.IsRejection)
    (h : c.runOn root s generatedAt t = (.error (.ground e), t')) :
    ∃ o, c.resolve s = .ok o ∧ s.prepare (o.driverOptions generatedAt) = .error e ∧
      (∀ package ∈ o.packagePaths root, IsPackage t' package) ∧
      ∃ place, t'.find (o.driverPath root s) = .ok (place, some (.file "")) ∧
        ∀ other entry, t.entry? other = some entry → other ≠ place →
          t'.entry? other = some entry := by
  obtain ⟨o, hresolve, -, t₁, houtput, markers, t₂, hpackages, hwrite, hresult⟩ :=
    runOn_eq_ground_iff.1 h
  obtain ⟨hprepare, htext⟩ := TestSuite.ground_of_isRejection he hresult
  rw [htext] at hwrite
  have hready := readyForDriver_of_runs houtput hpackages
  obtain ⟨last, hlast⟩ := hready.packagePath
  obtain ⟨place, found, hfind, hfound, rfl⟩ := write_eq_ok_iff.1 hwrite
  obtain rfl := find_driverPath hlast hfind
  have hfree : t₂.entry? (last ++ [s.driverName]) ≠ some .directory :=
    (find_eq_ok_iff.1 hfind).2.2 ▸ hfound
  refine ⟨o, hresolve, hprepare, fun package hmem => isPackage_put hfree
    (hready.packages package hmem), last ++ [s.driverName], ?_, fun other entry hentry hne => ?_⟩
  · rw [find_put_file hfree hfind, entry?_put_self (by simp)]
  · rw [entry?_put_of_ne hne]
    exact hready.grows.keeps hentry

/-! One step is enough for a suite to be rejected. -/

def stepSuite (operation : Option Operation) : TestSuite where
  name := "A"
  grounding := none
  metaCheck := false
  sequences := [⟨1, "S", 1, [⟨"put/ok", "S", false, operation⟩]⟩]
  notices := []

/-- An operation with an input whose type lacks a parameter. -/
def malformedOperation : Operation := ⟨"put", [⟨"xs", "Map[String]", none, true⟩], [], []⟩

theorem ground_stepSuite_none (o : DriverOptions) :
    (stepSuite none).ground o = ⟨"", .error (.noOperation "put/ok" 1)⟩ := by
  rfl

theorem ground_stepSuite_malformed (o : DriverOptions) :
    (stepSuite (some malformedOperation)).ground o =
      ⟨"", .error (.fault (.descriptor (.arity "Map" "Map[String]" 2)))⟩ := by
  have hlayer : Descriptor.readLayer .bracket "Map[String]".toList =
      .error (.arity "Map" "Map[String]" 2) := rfl
  have hparse : Descriptor.parse .bracket "Map[String]" =
      .error (.arity "Map" "Map[String]" 2) := by
    rw [Descriptor.parse, Descriptor.parseChars, hlayer]
  have hused : (stepSuite (some malformedOperation)).synthesized =
      [(.input, ⟨"xs", "Map[String]", none, true⟩)] := rfl
  rw [TestSuite.ground, TestSuite.prepare, TestSuite.analyse, hused, List.mapM_cons, hparse]
  rfl

def earlierPlace : FilePlace := ["gen", "test_a.py"]

def earlierTree : FileTree where
  entries := [(["gen"], .directory), (earlierPlace, .file "pass")]

theorem runOn_stepSuite {operation : Option Operation}
    (h : ∀ o, (stepSuite operation).ground o = ⟨"", .error e⟩) :
    (sampleConfig "gen" "").runOn ⟨.relative, []⟩ (stepSuite operation) sampleMoment earlierTree =
      (.error (.ground e), earlierTree.put earlierPlace (.file "")) := by
  obtain ⟨o, hresolve, houtputDir, hpackage⟩ : ∃ o, (sampleConfig "gen" "").resolve
      (stepSuite operation) = .ok o ∧ o.outputDir = "gen" ∧ o.targetPackage = "" :=
    ⟨_, rfl, rfl, rfl⟩
  have houtput : o.outputPath ⟨.relative, []⟩ = ⟨.relative, ["gen"]⟩ := by
    show Path.join ⟨.relative, []⟩ (Path.ofText o.outputDir) = _
    rw [houtputDir]
    decide
  have hparts : packageParts o.targetPackage = [] := by
    rw [hpackage]
    rfl
  have hpath : o.driverPath ⟨.relative, []⟩ (stepSuite operation) =
      ⟨.relative, ["gen", "test_a.py"]⟩ := by
    rw [RunOptions.driverPath, RunOptions.packagePath, hparts, houtput]
    show Path.child ⟨.relative, ["gen"]⟩ ("test_" ++ Text.snakeCase "A" ++ ".py") = _
    decide +kernel
  have hdirectory : earlierTree.find ⟨.relative, ["gen"]⟩ = .ok (["gen"], some .directory) :=
    find_of_walk (by decide) rfl rfl
  have hkind : earlierTree.kind? ⟨.relative, ["gen"]⟩ = some .directory :=
    kind?_of_find hdirectory
  have hdriver : earlierTree.find ⟨.relative, ["gen", "test_a.py"]⟩ =
      .ok (earlierPlace, some (.file "pass")) := find_of_walk (by decide) rfl rfl
  refine runOn_eq_ground_iff.2 ⟨o, hresolve, ?_, earlierTree, ?_, [], earlierTree, ?_, ?_, ?_⟩
  · rw [houtput, hkind]
    intro h
    cases h
  · rw [houtput]
    exact ensureDirectories_of_directory hkind
  · rw [hparts]
    rfl
  · rw [hpath, h]
    have hfile : some (FileEntry.file "pass") ≠ some .directory := by
      intro h
      cases h
    exact write_eq_ok_iff.2 ⟨_, _, hdriver, hfile, rfl⟩
  · rw [h]

theorem runOn_rejected_lacking : ∃ t',
    (sampleConfig "gen" "").runOn ⟨.relative, []⟩ (stepSuite none) sampleMoment earlierTree =
      (.error (.ground (.noOperation "put/ok" 1)), t') ∧
    ∃ (o : RunOptions) (place : FilePlace),
      t'.find (o.driverPath ⟨.relative, []⟩ (stepSuite none)) =
        .ok (place, some (.file "")) ∧
      ∀ other entry, earlierTree.entry? other = some entry → other ≠ place →
        t'.entry? other = some entry := by
  have hrun := runOn_stepSuite ground_stepSuite_none
  obtain ⟨o, -, -, -, place, hplace, hkept⟩ := runOn_rejected (.noOperation _ _) hrun
  exact ⟨_, hrun, o, place, hplace, hkept⟩

/-- The driver of an earlier run loses its text to a step that lacks its operation, and to a type
that lacks a parameter. -/
theorem rejection_empties_driver : earlierTree.entry? earlierPlace = some (.file "pass") ∧
    (∃ t', (sampleConfig "gen" "").runOn ⟨.relative, []⟩ (stepSuite none) sampleMoment
        earlierTree = (.error (.ground (.noOperation "put/ok" 1)), t') ∧
      t'.entry? earlierPlace = some (.file "")) ∧
    ∃ t', (sampleConfig "gen" "").runOn ⟨.relative, []⟩ (stepSuite (some malformedOperation))
        sampleMoment earlierTree =
          (.error (.ground (.fault (.descriptor (.arity "Map" "Map[String]" 2)))), t') ∧
      t'.entry? earlierPlace = some (.file "") := by
  have hemptied : entry? (earlierTree.put earlierPlace (.file "")) earlierPlace =
      some (.file "") := entry?_put_self (List.cons_ne_nil _ _)
  exact ⟨rfl, ⟨_, runOn_stepSuite ground_stepSuite_none, hemptied⟩,
    ⟨_, runOn_stepSuite ground_stepSuite_malformed, hemptied⟩⟩

end Grounding

import Grounding.Proofs.Run.Packages
import Grounding.Proofs.Text.Naming

/-!
# What a run changes

A run that succeeds makes the output directory and the packages below it, and then writes the
driver. Up to the driver the tree only grows. The driver is the one file whose text may be replaced,
and no marker stands at its place, so that a second run finds all it needs and writes the same text
again.
-/

namespace Grounding

open FileTree Outcome Run

variable {c : Config} {root : Path} {s : TestSuite} {generatedAt : Moment} {t t' : FileTree}
  {r : RunResult}

/-! ### The driver -/

def TestSuite.driverName (s : TestSuite) : String := "test_" ++ Text.snakeCase s.name ++ ".py"

theorem TestSuite.toList_driverName (s : TestSuite) : s.driverName.toList =
    ['t', 'e', 's', 't', '_'] ++ (Text.snakeCase s.name).toList ++ ['.', 'p', 'y'] := by
  rw [driverName, String.toList_append, String.toList_append]
  rfl

theorem TestSuite.slash_notMem_driverName (s : TestSuite) : '/' ∉ s.driverName.toList := by
  intro h
  rw [s.toList_driverName] at h
  rcases List.mem_append.1 h with h | h
  · rcases List.mem_append.1 h with h | h
    · exact absurd h (by decide)
    · exact absurd (Text.isWord_of_mem_snakeCase (by decide) h) (by decide)
  · exact absurd h (by decide)

theorem TestSuite.driverName_ne {name : String} (hname : name.toList.head? ≠ some 't')
    (s : TestSuite) : s.driverName ≠ name := by
  rintro rfl
  exact hname (by rw [s.toList_driverName]; rfl)

/-- The packages of a driver, outermost first. -/
def RunOptions.packagePaths (o : RunOptions) (root : Path) : List Path :=
  packageDirectories (o.outputPath root) (packageParts o.targetPackage)

theorem RunOptions.driverPath_eq (o : RunOptions) (root : Path) (s : TestSuite) :
    o.driverPath root s =
      ⟨(o.packagePath root).root, (o.packagePath root).parts ++ [s.driverName]⟩ :=
  child_eq_concat s.slash_notMem_driverName (s.driverName_ne (by decide))
    (s.driverName_ne (by decide)) _

theorem RunOptions.getLastD_packagePaths (o : RunOptions) (root : Path) :
    (o.packagePaths root).getLastD (o.outputPath root) = o.packagePath root :=
  getLastD_packageDirectories _ _

/-! ### The parts of a run -/

theorem writeDriver_run_eq_ok_iff {path : Path} {g : Grounded} {record : DependencyRecord} :
    (writeDriver path g : ExceptT RunError (StateM FileTree) _).run t = (.ok record, t') ↔
      t.write path g.text = .ok t' ∧ g.result = .ok record := by
  rw [writeDriver, run_bind_eq_ok_iff]
  simp only [files_run_eq_ok_iff]
  cases hresult : g.result with
  | ok made =>
    constructor
    · rintro ⟨⟨⟩, t₁, hwrite, h⟩
      obtain ⟨rfl, rfl⟩ := run_pure_eq_ok_iff.1 h
      exact ⟨write_run_eq_ok_iff.1 hwrite, rfl⟩
    · rintro ⟨hwrite, h⟩
      exact ⟨(), t', write_run_eq_ok_iff.2 hwrite, run_pure_eq_ok_iff.2 ⟨Except.ok.inj h, rfl⟩⟩
  | error e =>
    refine iff_of_false ?_ fun h => nomatch h.2
    rintro ⟨⟨⟩, t₁, -, h⟩
    cases h

def Config.runOn (c : Config) (root : Path) (s : TestSuite) (generatedAt : Moment) (t : FileTree) :
    Except RunError RunResult × FileTree :=
  (c.run root s generatedAt : ExceptT RunError (StateM FileTree) RunResult).run t

theorem runOn_eq_ok_iff : c.runOn root s generatedAt t = (.ok r, t') ↔
    ∃ o, c.resolve s = .ok o ∧ t.kind? (o.outputPath root) ≠ some .file ∧
      ∃ t₁, (FileAccess.ensureDirectories (o.outputPath root) (o.outputPath root).parts.length :
          StateM FileTree _).run t = (.ok (), t₁) ∧
        ∃ markers t₂, (ensurePackages (o.outputPath root) (packageParts o.targetPackage) :
            ExceptT RunError (StateM FileTree) _).run t₁ = (.ok markers, t₂) ∧
          t₂.write (o.driverPath root s) (s.ground (o.driverOptions generatedAt)).text = .ok t' ∧
          ∃ record, (s.ground (o.driverOptions generatedAt)).result = .ok record ∧
            r = ⟨o.driverPath root s, o, record, s.sequences.length,
              markers ++ [o.driverPath root s]⟩ := by
  unfold Config.runOn Config.run
  cases hresolve : c.resolve s with
  | error e =>
    exact iff_of_false (fun h => nomatch (Prod.mk.inj h).1) fun ⟨_, h, _⟩ => nomatch h
  | ok o =>
    simp only [pure_bind]
    rw [run_bind_eq_ok_iff]
    constructor
    · rintro ⟨k, _, hkind, h⟩
      obtain ⟨rfl, rfl⟩ := asking_kind?_run_eq_ok_iff.1 hkind
      by_cases hfile : t.kind? (o.outputPath root) = some .file
      · rw [hfile] at h
        cases h
      · rw [if_neg (by simpa using hfile)] at h
        obtain ⟨⟨⟩, t₁, houtput, h⟩ := run_bind_eq_ok_iff.1 h
        obtain ⟨markers, t₂, hpackages, h⟩ := run_bind_eq_ok_iff.1 h
        obtain ⟨record, t₃, hdriver, h⟩ := run_bind_eq_ok_iff.1 h
        obtain ⟨rfl, rfl⟩ := run_pure_eq_ok_iff.1 h
        obtain ⟨hwrite, hresult⟩ := writeDriver_run_eq_ok_iff.1 hdriver
        exact ⟨o, rfl, hfile, t₁, files_run_eq_ok_iff.1 houtput, markers, t₂, hpackages, hwrite,
          record, hresult, rfl⟩
    · rintro ⟨_, ho, hfile, t₁, houtput, markers, t₂, hpackages, hwrite, record, hresult, rfl⟩
      obtain rfl := Except.ok.inj ho
      refine ⟨_, _, asking_kind?_run_eq_ok_iff.2 ⟨rfl, rfl⟩, ?_⟩
      rw [if_neg (by simpa using hfile)]
      exact run_bind_eq_ok_iff.2 ⟨(), t₁, files_run_eq_ok_iff.2 houtput,
        run_bind_eq_ok_iff.2 ⟨markers, t₂, hpackages, run_bind_eq_ok_iff.2 ⟨record, t',
          writeDriver_run_eq_ok_iff.2 ⟨hwrite, hresult⟩, rfl⟩⟩⟩

/-! ### Before the driver -/

/-- The tree before the driver is written: the output directory and the packages are there. -/
structure ReadyForDriver (o : RunOptions) (root : Path) (markers : List Path) (t t₂ : FileTree) :
    Prop where
  grows : GrowsBy (fun _ _ => True) t t₂
  output : t₂.kind? (o.outputPath root) = some .directory
  packages : ∀ package ∈ o.packagePaths root, IsPackage t₂ package
  fresh : ∀ marker ∈ markers, (∃ package ∈ o.packagePaths root, marker = markerPath package) ∧
    ∃ place, t₂.find marker = .ok (place, some (.file "")) ∧ t.entry? place = none
  listed : ∀ place text, t.entry? place = none → t₂.entry? place = some (.file text) →
    some place ∈ markers.map t₂.place?
  distinct : (markers.map t₂.place?).Nodup

theorem readyForDriver_of_runs {o : RunOptions} {markers : List Path} {names : Nat}
    {t₁ t₂ : FileTree}
    (houtput : (FileAccess.ensureDirectories (o.outputPath root) names :
      StateM FileTree _).run t = (.ok (), t₁))
    (hpackages : (ensurePackages (o.outputPath root) (packageParts o.targetPackage) :
      ExceptT RunError (StateM FileTree) _).run t₁ = (.ok markers, t₂)) :
    ReadyForDriver o root markers t t₂ := by
  obtain ⟨hgrows, hkind⟩ := growsBy_of_ensureDirectories houtput
  have hmakes := makesPackages_of_ensurePackages hpackages
  refine ⟨?_, hmakes.grows.kind? hkind, hmakes.packages, ?_, ?_, hmakes.distinct⟩
  · exact (hgrows.imp fun _ _ _ => trivial).trans (hmakes.grows.imp fun _ _ _ => trivial)
  · intro marker hmem
    obtain ⟨hpackage, place, hfind, hnone⟩ := hmakes.markers marker hmem
    exact ⟨hpackage, place, hfind, hgrows.eq_none hnone⟩
  · intro place text hnone htext
    have hnone₁ : t₁.entry? place = none := by
      rcases hgrows.2 place with hsame | ⟨-, e, he, rfl⟩
      · rw [hsame, hnone]
      · rw [hmakes.grows.keeps he] at htext
        cases htext
    rcases hmakes.grows.2 place with hsame | ⟨-, e, he, hmade⟩
    · rw [hsame, hnone₁] at htext
      cases htext
    · rw [he] at htext
      obtain rfl := Option.some.inj htext
      exact (hmade.resolve_left nofun).2

theorem ReadyForDriver.packagePath {o : RunOptions} {markers : List Path} {t₂ : FileTree}
    (h : ReadyForDriver o root markers t t₂) :
    ∃ place, t₂.find (o.packagePath root) = .ok (place, some .directory) := by
  rw [← kind?_eq_directory_iff, ← o.getLastD_packagePaths root]
  rcases List.eq_nil_or_concat (o.packagePaths root) with hnil | ⟨before, last, hlast⟩
  · rw [hnil]
    exact h.output
  · rw [hlast, List.concat_eq_append, List.getLastD_concat]
    exact (h.packages last (by rw [hlast]; simp)).1

theorem ReadyForDriver.exists_place {o : RunOptions} {markers : List Path} {t₂ : FileTree}
    (h : ReadyForDriver o root markers t t₂) {marker : Path} (hmem : marker ∈ markers) :
    ∃ package ∈ o.packagePaths root, marker = markerPath package ∧ ∃ place,
      t₂.find marker = .ok (place ++ [markerName], some (.file "")) ∧
        t.entry? (place ++ [markerName]) = none := by
  obtain ⟨⟨package, hpackage, rfl⟩, other, hfind, hnone⟩ := h.fresh marker hmem
  obtain ⟨place, e, -, hmarker⟩ := (h.packages package hpackage).find
  obtain ⟨rfl, -⟩ := Prod.mk.inj (Except.ok.inj (hfind.symm.trans hmarker))
  exact ⟨package, hpackage, rfl, place, hfind, hnone⟩

/-! ### With the driver -/

theorem concat_markerName_ne (s : TestSuite) (place other : FilePlace) :
    other ++ [markerName] ≠ place ++ [s.driverName] := by
  intro h
  have hname : s.driverName = markerName := by simpa using (List.append_inj' h rfl).2.symm
  exact s.driverName_ne (by decide) hname

def IsMarkerPlace (t : FileTree) (packages : List Path) (place : FilePlace) : Prop :=
  ∃ package ∈ packages, t.place? (markerPath package) = some place

section

variable {o : RunOptions} {markers : List Path} {t₂ : FileTree} {last : FilePlace} {text : String}

theorem find_driverPath (hlast : t₂.find (o.packagePath root) = .ok (last, some .directory))
    {place : FilePlace} {found : Option FileEntry}
    (hfind : t₂.find (o.driverPath root s) = .ok (place, found)) :
    place = last ++ [s.driverName] := by
  have hparts := o.driverPath_eq root s
  have hfound := find_concat (q := o.driverPath root s) hlast (by rw [hparts]) (by rw [hparts])
    (find_eq_ok_iff.1 hfind).1 (s.driverName_ne (by decide))
  exact (Prod.mk.inj (Except.ok.inj (hfind.symm.trans hfound))).1

/-- The new markers and the driver have places of their own. -/
theorem ReadyForDriver.nodup_places (h : ReadyForDriver o root markers t t₂) :
    (markers.map t₂.place? ++ [some (last ++ [s.driverName])]).Nodup := by
  refine List.nodup_append.2 ⟨h.distinct, by simp, fun at_ hat other hother => ?_⟩
  obtain ⟨marker, hmarker, rfl⟩ := List.mem_map.1 hat
  obtain ⟨-, -, -, place, hfind, -⟩ := h.exists_place hmarker
  rw [place?_of_find hfind, List.mem_singleton.1 hother]
  exact fun heq => concat_markerName_ne s last place (Option.some.inj heq)

variable (hfree : t₂.entry? (last ++ [s.driverName]) ≠ some .directory)
include hfree

theorem find_directory_put {p : Path} {place : FilePlace}
    (h : t₂.find p = .ok (place, some .directory)) :
    (t₂.put (last ++ [s.driverName]) (.file text)).find p = .ok (place, some .directory) := by
  refine find_put_file_of_ne hfree h ?_
  rintro rfl
  exact hfree (find_eq_ok_iff.1 h).2.2

theorem isPackage_put {package : Path} (h : IsPackage t₂ package) :
    IsPackage (t₂.put (last ++ [s.driverName]) (.file text)) package := by
  obtain ⟨place, e, hfind, hmarker⟩ := h.find
  exact isPackage_of_find (find_directory_put hfree hfind)
    (find_put_file_of_ne hfree hmarker (concat_markerName_ne s last place))

theorem ReadyForDriver.map_place?_put (h : ReadyForDriver o root markers t t₂) :
    markers.map (t₂.put (last ++ [s.driverName]) (.file text)).place? = markers.map t₂.place? := by
  refine List.map_congr_left fun marker hmem => ?_
  obtain ⟨-, place, hfind, -⟩ := h.fresh marker hmem
  rw [place?_of_find hfind, place?_of_find (find_put_file hfree hfind)]

/-- The new markers are those at whose places there was nothing before and are files now. -/
theorem ReadyForDriver.mem_places_iff (h : ReadyForDriver o root markers t t₂)
    {place : FilePlace} : some place ∈ markers.map t₂.place? ↔
      IsMarkerPlace (t₂.put (last ++ [s.driverName]) (.file text)) (o.packagePaths root) place ∧
        t.entry? place = none ∧
        entry? (t₂.put (last ++ [s.driverName]) (.file text)) place ≠ some .directory := by
  constructor
  · intro hmem
    obtain ⟨marker, hmarker, heq⟩ := List.mem_map.1 hmem
    obtain ⟨package, hpackage, rfl, other, hfind, hnone⟩ := h.exists_place hmarker
    rw [place?_of_find hfind] at heq
    obtain rfl := Option.some.inj heq
    refine ⟨⟨package, hpackage, place?_of_find (find_put_file hfree hfind)⟩, hnone, ?_⟩
    rw [entry?_put_of_ne (concat_markerName_ne s last other), (find_eq_ok_iff.1 hfind).2.2]
    nofun
  · rintro ⟨⟨package, hpackage, hplace⟩, hnone, hfile⟩
    obtain ⟨other, e, -, hmarker⟩ := (h.packages package hpackage).find
    rw [place?_of_find (find_put_file hfree hmarker)] at hplace
    obtain rfl := Option.some.inj hplace
    have he : t₂.entry? (other ++ [markerName]) = some e := (find_eq_ok_iff.1 hmarker).2.2
    rw [entry?_put_of_ne (concat_markerName_ne s last other), he] at hfile
    cases e with
    | directory => exact absurd rfl hfile
    | file text => exact h.listed _ text hnone he

end

/-! ### All of a run -/

/-- A run that succeeds leaves packages with markers and the driver in the last of them. It changes
no entry but the driver. Besides the driver it reports the new markers, each once. A second run
finds all in place, and reports the driver alone. -/
theorem runOn_changes (h : c.runOn root s generatedAt t = (.ok r, t')) :
    c.resolve s = .ok r.options ∧
    (∀ package ∈ r.options.packagePaths root, IsPackage t' package) ∧
    (∃ place, t'.find ((r.options.packagePaths root).getLastD (r.options.outputPath root)) =
        .ok (place, some .directory) ∧
      t'.find r.driverPath = .ok (place ++ [s.driverName],
        some (.file (s.ground (r.options.driverOptions generatedAt)).text))) ∧
    (∀ place e, t.entry? place = some e → t'.place? r.driverPath ≠ some place →
      t'.entry? place = some e) ∧
    (∃ markers, r.filesCreated = markers ++ [r.driverPath] ∧
      (r.filesCreated.map t'.place?).Nodup ∧
      ∀ place, some place ∈ markers.map t'.place? ↔
        IsMarkerPlace t' (r.options.packagePaths root) place ∧ t.entry? place = none ∧
          t'.entry? place ≠ some .directory) ∧
    c.runOn root s generatedAt t' = (.ok { r with filesCreated := [r.driverPath] }, t') := by
  obtain ⟨o, hresolve, -, t₁, houtput, markers, t₂, hpackages, hwrite, record, hresult, rfl⟩ :=
    runOn_eq_ok_iff.1 h
  have hready := readyForDriver_of_runs houtput hpackages
  obtain ⟨last, hlast⟩ := hready.packagePath
  obtain ⟨place, found, hfind, hfound, rfl⟩ := write_eq_ok_iff.1 hwrite
  obtain rfl := find_driverPath hlast hfind
  have hfree : t₂.entry? (last ++ [s.driverName]) ≠ some .directory :=
    (find_eq_ok_iff.1 hfind).2.2 ▸ hfound
  generalize htext : (s.ground (o.driverOptions generatedAt)).text = text at *
  have hdriver : (t₂.put (last ++ [s.driverName]) (.file text)).find (o.driverPath root s) =
      .ok (last ++ [s.driverName], some (.file text)) := by
    rw [find_put_file hfree hfind, entry?_put_self (by simp)]
  refine ⟨hresolve, fun package hmem => isPackage_put hfree (hready.packages package hmem),
    ⟨last, ?_, ?_⟩, ?_, ⟨markers, rfl, ?_, fun at_ => ?_⟩, runOn_eq_ok_iff.2 ?_⟩
  · rw [o.getLastD_packagePaths]
    exact find_directory_put hfree hlast
  · exact hdriver
  · intro other e he hne
    have hother : other ≠ last ++ [s.driverName] := by
      rintro rfl
      exact hne (place?_of_find hdriver)
    rw [entry?_put_of_ne hother]
    exact hready.grows.keeps he
  · rw [List.map_append, List.map_singleton, place?_of_find hdriver, hready.map_place?_put hfree]
    exact hready.nodup_places
  · rw [hready.map_place?_put hfree]
    exact hready.mem_places_iff hfree
  · obtain ⟨at_, houtputFind⟩ := kind?_eq_directory_iff.1 hready.output
    have houtputKind : (t₂.put (last ++ [s.driverName]) (.file text)).kind? (o.outputPath root) =
        some .directory := kind?_of_find (find_directory_put hfree houtputFind)
    refine ⟨o, hresolve, ?_, _, ensureDirectories_of_directory houtputKind, [], _,
      ensurePackages_of_isPackage fun package hmem => isPackage_put hfree
        (hready.packages package hmem), ?_, record, hresult, rfl⟩
    · rw [houtputKind]
      nofun
    · rw [htext]
      exact write_eq_ok_iff.2 ⟨_, _, hdriver, nofun, (put_put _ _ _).symm⟩

/-! A suite without tests is enough to see what becomes of the tree. -/

/-- A suite without tests. -/
def emptySuite : TestSuite where
  name := "A"
  grounding := none
  metaCheck := false
  sequences := []
  notices := []

/-- The time of the sample runs. -/
def sampleMoment : Moment := ⟨2026, 1, 1, 12, 0, 0⟩

def sampleConfig (outputDir targetPackage : String) : Config where
  outputDir := outputDir
  targetPackage := some targetPackage

theorem find_of_walk {p : Path} {place : FilePlace} {found : Option FileEntry}
    (hnull : ∀ name ∈ p.parts, '\x00' ∉ name.toList)
    (hwalk : t.walk (t.start p) p.parts = .ok place) (he : t.entry? place = found) :
    t.find p = .ok (place, found) :=
  find_eq_ok_iff.2 ⟨hasNull_eq_false_iff.2 hnull, hwalk, he⟩

theorem exists_runOn_emptySuite {outputDir targetPackage : String} {output : Path}
    {names : List String} {t₁ t₂ : FileTree} {markers : List Path} {place : FilePlace}
    (houtput : Path.ofText outputDir = output) (hnames : packageParts targetPackage = names)
    (hfile : t.kind? output ≠ some .file)
    (hdirectories : (FileAccess.ensureDirectories output output.parts.length :
      StateM FileTree _).run t = (.ok (), t₁))
    (hpackages : (ensurePackages output names : ExceptT RunError (StateM FileTree) _).run t₁ =
      (.ok markers, t₂))
    (hdriver : t₂.find ((names.foldl Path.child output).child emptySuite.driverName) =
      .ok (place, none)) :
    ∃ r t', (sampleConfig outputDir targetPackage).runOn ⟨.relative, []⟩ emptySuite sampleMoment t =
        (.ok r, t') ∧
      r.filesCreated = markers ++ [(names.foldl Path.child output).child emptySuite.driverName] ∧
      r.options.packagePaths ⟨.relative, []⟩ = packageDirectories output names ∧
      ∃ text, t' = t₂.put place (.file text) := by
  obtain ⟨o, hresolve, rfl, rfl⟩ : ∃ o, (sampleConfig outputDir targetPackage).resolve emptySuite =
      .ok o ∧ o.outputDir = outputDir ∧ o.targetPackage = targetPackage := ⟨_, rfl, rfl, rfl⟩
  obtain ⟨record, hrecord⟩ : ∃ record, (emptySuite.ground (o.driverOptions sampleMoment)).result =
      .ok record := ⟨_, rfl⟩
  have hroot : o.outputPath ⟨.relative, []⟩ = output := by
    rw [← houtput]
    show Path.join ⟨.relative, []⟩ (Path.ofText o.outputDir) = Path.ofText o.outputDir
    cases hpath : Path.ofText o.outputDir with
    | mk root parts => cases root <;> rfl
  have hpath : o.driverPath ⟨.relative, []⟩ emptySuite =
      (names.foldl Path.child output).child emptySuite.driverName := by
    rw [RunOptions.driverPath, RunOptions.packagePath, hroot, hnames]
    rfl
  refine ⟨⟨_, o, record, _, _⟩,
    t₂.put place (.file (emptySuite.ground (o.driverOptions sampleMoment)).text),
    runOn_eq_ok_iff.2 ⟨o, hresolve, ?_, t₁, ?_, markers, t₂, ?_, ?_,
    record, hrecord, rfl⟩, ?_, ?_, _, rfl⟩
  · rw [hroot]
    exact hfile
  · rw [hroot]
    exact hdirectories
  · rw [hroot, hnames]
    exact hpackages
  · rw [hpath]
    exact write_eq_ok_iff.2 ⟨place, none, hdriver, nofun, rfl⟩
  · rw [hpath]
  · rw [RunOptions.packagePaths, hroot, hnames]

theorem runOn_changes_sample : ∃ r t',
    (sampleConfig "gen" "tests").runOn ⟨.relative, []⟩ emptySuite sampleMoment FileTree.empty =
      (.ok r, t') ∧
    r.filesCreated.map Path.text = ["gen/tests/__init__.py", "gen/tests/test_a.py"] ∧
    (r.filesCreated.map t'.place?).Nodup ∧
    (sampleConfig "gen" "tests").runOn ⟨.relative, []⟩ emptySuite sampleMoment t' =
      (.ok { r with filesCreated := [r.driverPath] }, t') := by
  let t₁ : FileTree := FileTree.empty.put ["gen"] .directory
  let t₂ : FileTree := t₁.put ["gen", "tests"] .directory
  let t₃ : FileTree := t₂.put ["gen", "tests", "__init__.py"] (.file "")
  have houtput : FileTree.empty.find ⟨.relative, ["gen"]⟩ = .ok (["gen"], none) :=
    find_of_walk (by decide) rfl rfl
  have hmarker : t₂.find (markerPath ⟨.relative, ["gen", "tests"]⟩) =
      .ok (["gen", "tests", "__init__.py"], none) := find_of_walk (by decide) rfl rfl
  have hdriver : t₃.find ⟨.relative, ["gen", "tests", "test_a.py"]⟩ =
      .ok (["gen", "tests", "test_a.py"], none) := find_of_walk (by decide) rfl rfl
  have hfile : FileTree.empty.kind? ⟨.relative, ["gen"]⟩ ≠ some .file := by
    rw [kind?_of_find_none houtput]
    nofun
  have hdirectories : (FileAccess.ensureDirectories ⟨.relative, ["gen"]⟩ 1 :
      StateM FileTree _).run FileTree.empty = (.ok (), t₁) :=
    ensureDirectories_of_ensureDirectory
      (ensureDirectory_run_eq_ok_iff.2 (.inr ⟨["gen"], houtput, rfl⟩))
  have hpackages : (ensurePackages ⟨.relative, ["gen"]⟩ ["tests"] :
      ExceptT RunError (StateM FileTree) _).run t₁ =
        (.ok [markerPath ⟨.relative, ["gen", "tests"]⟩], t₃) := by
    refine ensurePackages_cons_run_eq_ok_iff.2 ⟨t₂, [_], t₃, [], ?_, ?_, rfl, rfl⟩
    · exact ensureDirectory_run_eq_ok_iff.2
        (.inr ⟨["gen", "tests"], find_of_walk (by decide) rfl rfl, rfl⟩)
    · exact ensureMarker_run_eq_ok_iff.2
        (.inr ⟨kind?_of_find_none hmarker, rfl, _, hmarker, rfl⟩)
  obtain ⟨r, t', hrun, hcreated, -, -⟩ := exists_runOn_emptySuite
    (show Path.ofText "gen" = ⟨.relative, ["gen"]⟩ by decide)
    (show packageParts "tests" = ["tests"] by decide) hfile hdirectories hpackages hdriver
  obtain ⟨-, -, -, -, ⟨_, -, hdistinct, -⟩, hagain⟩ := runOn_changes hrun
  exact ⟨r, t', hrun, by rw [hcreated]; decide +kernel, hdistinct, hagain⟩

/-- A marker that the output directory is reached by is made a directory with it, and is not
reported. -/
theorem marker_made_with_output : ∃ r t' place,
    (sampleConfig "__init__.py/.." ".").runOn ⟨.relative, []⟩ emptySuite sampleMoment
      FileTree.empty = (.ok r, t') ∧
    IsMarkerPlace t' (r.options.packagePaths ⟨.relative, []⟩) place ∧
    FileTree.empty.entry? place = none ∧ t'.entry? place = some .directory ∧
    some place ∉ r.filesCreated.map t'.place? := by
  let output : Path := ⟨.relative, ["__init__.py", ".."]⟩
  let t₁ : FileTree := FileTree.empty.put ["__init__.py"] .directory
  have hmissing : FileTree.empty.find output = .error .noEntry :=
    find_eq_error (hasNull_eq_false_iff.2 (by decide)) rfl
  have hparent : FileTree.empty.find output.parent = .ok (["__init__.py"], none) :=
    find_of_walk (by decide) rfl rfl
  have hthere : t₁.find output = .ok ([], some .directory) := find_of_walk (by decide) rfl rfl
  have hmarker : t₁.find (markerPath output) = .ok (["__init__.py"], some .directory) :=
    find_of_walk (by decide) rfl rfl
  have hdriver : t₁.find ⟨.relative, ["__init__.py", "..", "test_a.py"]⟩ =
      .ok (["test_a.py"], none) := find_of_walk (by decide) rfl rfl
  have hfile : FileTree.empty.kind? output ≠ some .file := by
    rw [kind?, hmissing]
    decide
  have hdirectories : (FileAccess.ensureDirectories output 2 : StateM FileTree _).run
      FileTree.empty = (.ok (), t₁) :=
    ensureDirectories_of_parent (List.cons_ne_nil _ _) hmissing
      (ensureDirectories_of_ensureDirectory
        (ensureDirectory_run_eq_ok_iff.2 (.inr ⟨_, hparent, rfl⟩)))
      (ensureDirectory_of_directory (kind?_of_find hthere))
  have hpackage : IsPackage t₁ output := isPackage_of_find hthere hmarker
  have hpackages : (ensurePackages output ["", ""] :
      ExceptT RunError (StateM FileTree) _).run t₁ = (.ok [], t₁) := by
    refine ensurePackages_of_isPackage fun package hmem => ?_
    have heq : packageDirectories output ["", ""] = [output, output] := by decide
    rw [heq] at hmem
    obtain rfl : package = output := by simpa using hmem
    exact hpackage
  obtain ⟨r, t', hrun, hcreated, hpaths, text, rfl⟩ := exists_runOn_emptySuite
    (show Path.ofText "__init__.py/.." = output by decide)
    (show packageParts "." = ["", ""] by decide) hfile hdirectories hpackages hdriver
  let t₂ : FileTree := t₁.put ["test_a.py"] (.file text)
  have hmade : t₂.find (markerPath output) = .ok (["__init__.py"], some .directory) :=
    find_of_walk (by decide) rfl rfl
  have hwritten : t₂.find ⟨.relative, ["__init__.py", "..", "test_a.py"]⟩ =
      .ok (["test_a.py"], some (.file text)) := find_of_walk (by decide) rfl rfl
  refine ⟨r, t₂, ["__init__.py"], hrun, ⟨output, ?_, place?_of_find hmade⟩, rfl, rfl, ?_⟩
  · rw [hpaths]
    exact List.mem_cons_of_mem _ List.mem_cons_self
  · rw [hcreated]
    show some ["__init__.py"] ∉ [t₂.place? ⟨.relative, ["__init__.py", "..", "test_a.py"]⟩]
    rw [place?_of_find hwritten]
    decide

end Grounding

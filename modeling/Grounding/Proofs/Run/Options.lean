import Grounding.Run

/-!
# Where the options of a run come from

Each option has its sources in a fixed order: the command line, the configuration file, the suite
where it may ask for something, and a default. The first of them that sets the option prevails,
where an empty text and an empty list set nothing, but a package without a name and a check that is
turned off do. What has been settled this way leaves nothing to any other suite.
-/

namespace Grounding

/-! ### Sources -/

/-- The first of some sources that sets an option to something that counts. -/
def firstSet {α : Type} (counts : α → Bool) (sources : List (Option α)) : Option α :=
  sources.findSome? (Option.filter counts)

section

variable {α : Type} {counts : α → Bool}

theorem firstSet_nil : firstSet counts [] = none := rfl

theorem firstSet_cons (source : Option α) (sources : List (Option α)) :
    firstSet counts (source :: sources) = (source.filter counts).or (firstSet counts sources) := by
  rw [firstSet, List.findSome?_cons]
  cases source.filter counts <;> rfl

theorem firstSet_singleton {a : α} (h : counts a = true) : firstSet counts [some a] = some a := by
  rw [firstSet_cons, firstSet_nil, Option.or_none]
  exact Option.filter_eq_some_iff.2 ⟨rfl, h⟩

theorem filter_any (source : Option α) : source.filter (fun _ => true) = source := by
  cases source <;> rfl

theorem filter_firstSet (sources : List (Option α)) :
    (firstSet counts sources).filter counts = firstSet counts sources := by
  induction sources with
  | nil => rfl
  | cons source sources ih =>
    rw [firstSet_cons]
    cases hsource : source.filter counts with
    | none => exact ih
    | some a => exact Option.filter_eq_some_iff.2 ⟨rfl, (Option.filter_eq_some_iff.1 hsource).2⟩

end

def isGiven (text : String) : Bool := !text.isEmpty

theorem given?_eq (text : Option String) : given? text = text.filter isGiven := rfl

theorem given?_or {first second : Option String} (h : first ≠ some "") :
    given? (first.or second) = (given? first).or (given? second) := by
  cases first with
  | none => rfl
  | some text =>
    have htext : given? (some text) = some text := by
      simp only [ne_eq, Option.some.injEq] at h
      simp [given?, h]
    rw [Option.some_or, htext, Option.some_or]

/-! ### Groundings -/

theorem Backend.ofSelector?_eq_some_iff {selector : String} {b : Backend} :
    ofSelector? selector = some b ↔ b.selector = selector := by
  constructor
  · intro h
    simpa using List.find?_some h
  · rintro rfl
    cases b <;> rfl

theorem Backend.ofSelector?_eq_none_iff {selector : String} :
    ofSelector? selector = none ↔ selector ∉ all.map Backend.selector := by
  simp [ofSelector?, List.find?_eq_none]

theorem Backend.isGiven_selector (b : Backend) : isGiven b.selector = true := by
  cases b <;> decide

theorem Backend.given?_defaultEndpoint? (b : Backend) :
    given? b.defaultEndpoint? = b.defaultEndpoint? := by
  cases b <;> decide

/-! ### Options -/

/-- The options of a run come from the command line, the configuration file and the suite. -/
structure RunOptions.ComesFrom (r : RunOptions) (o : Config.Overrides) (c : Config)
    (s : TestSuite) : Prop where
  grounding : firstSet isGiven [o.grounding, c.grounding, s.grounding, some defaultSelector] =
    some r.backend.selector
  metaCheck : firstSet (fun _ => true) [o.metaCheck, c.metaCheck, some s.metaCheck] =
    some r.metaCheck
  endpoint : firstSet isGiven [o.endpoint, c.endpoint, r.backend.defaultEndpoint?] = r.endpoint
  targetPackage : firstSet (fun _ => true) [o.targetPackage, c.targetPackage,
    some (r.testPackage ++ "." ++ r.backend.extension)] = some r.targetPackage
  sourcePackages : firstSet (fun packages => !packages.isEmpty) [some o.sourcePackages,
    some c.sourcePackages, some [r.clientPackage ++ "." ++ r.backend.extension]] =
      some r.sourcePackages
  outputDir : firstSet (fun _ => true) [o.outputDir, some c.outputDir] = some r.outputDir
  clientPackage : firstSet (fun _ => true) [o.clientPackage, some c.clientPackage] =
    some r.clientPackage
  testPackage : firstSet (fun _ => true) [o.testPackage, some c.testPackage] = some r.testPackage

namespace RunOptions.ComesFrom

variable {r r' : RunOptions} {o : Config.Overrides} {c : Config} {s : TestSuite}

theorem unique (h : r.ComesFrom o c s) (h' : r'.ComesFrom o c s) : r = r' := by
  have hbackend : r.backend = r'.backend := by
    have hselector := Option.some.inj (h.grounding.symm.trans h'.grounding)
    rw [← Backend.ofSelector?_eq_some_iff] at hselector
    exact Option.some.inj (hselector.symm.trans (Backend.ofSelector?_eq_some_iff.2 rfl))
  have hclient := Option.some.inj (h.clientPackage.symm.trans h'.clientPackage)
  have htest := Option.some.inj (h.testPackage.symm.trans h'.testPackage)
  have hendpoint := h.endpoint.symm.trans (hbackend ▸ h'.endpoint)
  have htarget := Option.some.inj (h.targetPackage.symm.trans (htest ▸ hbackend ▸ h'.targetPackage))
  have hsource := Option.some.inj
    (h.sourcePackages.symm.trans (hclient ▸ hbackend ▸ h'.sourcePackages))
  have hmeta := Option.some.inj (h.metaCheck.symm.trans h'.metaCheck)
  have houtput := Option.some.inj (h.outputDir.symm.trans h'.outputDir)
  cases r
  cases r'
  simp_all

theorem isEmpty_sourcePackages (h : r.ComesFrom o c s) : r.sourcePackages.isEmpty = false := by
  obtain ⟨source, -, hsource⟩ := List.exists_of_findSome?_eq_some h.sourcePackages
  simpa using (Option.filter_eq_some_iff.1 hsource).2

theorem endpoint_or (h : r.ComesFrom o c s) :
    (given? r.endpoint).or r.backend.defaultEndpoint? = r.endpoint := by
  have hdefault : r.backend.defaultEndpoint?.filter isGiven = r.backend.defaultEndpoint? :=
    r.backend.given?_defaultEndpoint?
  rw [← h.endpoint, given?_eq, filter_firstSet]
  simp only [firstSet_cons, firstSet_nil, hdefault, Option.or_none, Option.or_assoc, Option.or_self]

end RunOptions.ComesFrom

section

variable {c : Config} {o : Config.Overrides} {s : TestSuite} {r : RunOptions}

theorem RunOptions.resolve_config (r : RunOptions) (hsource : r.sourcePackages.isEmpty = false)
    (hendpoint : (given? r.endpoint).or r.backend.defaultEndpoint? = r.endpoint) (s : TestSuite) :
    r.config.resolve s = .ok r := by
  have hselector : given? r.config.grounding = some r.backend.selector :=
    Option.filter_eq_some_iff.2 ⟨rfl, r.backend.isGiven_selector⟩
  rw [Config.resolve, hselector]
  simp only [Option.some_or, Option.getD_some, Backend.ofSelector?_eq_some_iff.2 rfl]
  simp only [RunOptions.config, Option.getD_some, hsource, hendpoint]
  rfl

theorem firstSet_grounding (hgrounding : o.grounding ≠ some "") :
    firstSet isGiven [o.grounding, c.grounding, s.grounding, some defaultSelector] =
      some (((given? (c.merge o).grounding).or (given? s.grounding)).getD defaultSelector) := by
  have hdefault : isGiven defaultSelector = true := by decide
  rw [firstSet_cons, firstSet_cons, firstSet_cons, firstSet_singleton hdefault]
  simp only [Option.or_some, Config.merge, given?_or hgrounding, given?_eq, Option.getD_or]

theorem comesFrom_of_resolve (hgrounding : o.grounding ≠ some "") (hendpoint : o.endpoint ≠ some "")
    (h : (c.merge o).resolve s = .ok r) : r.ComesFrom o c s := by
  unfold Config.resolve at h
  dsimp only at h
  split at h
  · cases h
  · next b hb =>
    obtain rfl := Except.ok.inj h
    constructor
    case grounding => rw [firstSet_grounding hgrounding, Backend.ofSelector?_eq_some_iff.1 hb]
    case endpoint =>
      have hdefault : b.defaultEndpoint?.filter isGiven = b.defaultEndpoint? :=
        b.given?_defaultEndpoint?
      simp only [firstSet_cons, firstSet_nil, hdefault, Option.or_none, Config.merge,
        given?_or hendpoint, Option.or_assoc, given?_eq]
    case sourcePackages =>
      rw [firstSet_cons, firstSet_cons, firstSet_singleton rfl]
      cases ho : o.sourcePackages.isEmpty <;> cases hc : c.sourcePackages.isEmpty <;>
        simp [Config.merge, Option.filter_some, ho, hc]
    case metaCheck | targetPackage =>
      rw [firstSet_cons, firstSet_cons, firstSet_singleton rfl, filter_any, filter_any]
      simp only [Option.or_some, Config.merge, Option.getD_or]
    case outputDir | clientPackage | testPackage =>
      rw [firstSet_cons, firstSet_singleton rfl, filter_any, Option.or_some, Config.merge]

theorem resolve_eq_error_iff {e : RunError} : c.resolve s = .error e ↔
    ∃ selector, ((given? c.grounding).or (given? s.grounding)).getD defaultSelector = selector ∧
      selector ∉ Backend.all.map Backend.selector ∧ e = .unsupported selector := by
  unfold Config.resolve
  dsimp only
  split
  · next hnone =>
    rw [Backend.ofSelector?_eq_none_iff] at hnone
    constructor
    · exact fun h => ⟨_, rfl, hnone, (Except.error.inj h).symm⟩
    · rintro ⟨_, rfl, -, rfl⟩
      rfl
  · next b hb =>
    refine iff_of_false nofun ?_
    rintro ⟨_, rfl, hnone, -⟩
    rw [← Backend.ofSelector?_eq_none_iff, hb] at hnone
    cases hnone

/-- The options of a run come from the first of their sources that sets them, and they are refused
if and only if what is to select the grounding selects none. Once they are settled, they stay as
they are for any suite. -/
theorem resolve_merge_precedence (hgrounding : o.grounding ≠ some "")
    (hendpoint : o.endpoint ≠ some "") : ∃ selector,
      firstSet isGiven [o.grounding, c.grounding, s.grounding, some defaultSelector] =
        some selector ∧
      (∀ e, (c.merge o).resolve s = .error e ↔
        selector ∉ Backend.all.map Backend.selector ∧ e = .unsupported selector) ∧
      (∀ r, (c.merge o).resolve s = .ok r ↔ r.ComesFrom o c s) ∧
      ∀ r, (c.merge o).resolve s = .ok r → ∀ other, r.config.resolve other = .ok r := by
  refine ⟨_, firstSet_grounding hgrounding, fun e => ?_, fun r => ⟨?_, fun h => ?_⟩, fun r h => ?_⟩
  · rw [resolve_eq_error_iff]
    simp only [exists_eq_left']
  · exact comesFrom_of_resolve hgrounding hendpoint
  · cases hresolve : (c.merge o).resolve s with
    | ok r' => rw [(comesFrom_of_resolve hgrounding hendpoint hresolve).unique h]
    | error e =>
      obtain ⟨_, rfl, hnone, -⟩ := resolve_eq_error_iff.1 hresolve
      have hselector := (firstSet_grounding hgrounding).symm.trans h.grounding
      rw [Option.some.inj hselector, ← Backend.ofSelector?_eq_none_iff,
        Backend.ofSelector?_eq_some_iff.2 rfl] at hnone
      cases hnone
  · have hcomes := comesFrom_of_resolve hgrounding hendpoint h
    exact r.resolve_config hcomes.isEmpty_sourcePackages hcomes.endpoint_or

end

/-- Options of a command line that turn the checks off. -/
def uncheckedOverrides : Config.Overrides where
  metaCheck := some false
  sourcePackages := ["bank"]

/-- A configuration file that selects nothing, and a driver without a package. -/
def flatConfig : Config where
  grounding := some ""
  endpoint := some "http://bank"
  targetPackage := some ""

def checkedSuite : TestSuite where
  name := "A"
  grounding := some "rest"
  metaCheck := true
  sequences := []
  notices := []

/-- The options that come of these. -/
def flatOptions : RunOptions where
  backend := .rest
  metaCheck := false
  endpoint := some "http://bank"
  targetPackage := ""
  sourcePackages := ["bank"]
  outputDir := "generated/"
  clientPackage := "client"
  testPackage := "generated"

theorem resolve_merge_precedence_flat : uncheckedOverrides.grounding ≠ some "" ∧
    uncheckedOverrides.endpoint ≠ some "" ∧
    (flatConfig.merge uncheckedOverrides).resolve checkedSuite = .ok flatOptions ∧
    flatOptions.ComesFrom uncheckedOverrides flatConfig checkedSuite ∧
    ∀ other, flatOptions.config.resolve other = .ok flatOptions := by
  have hgrounding : uncheckedOverrides.grounding ≠ some "" := nofun
  have hendpoint : uncheckedOverrides.endpoint ≠ some "" := nofun
  have hresolve : (flatConfig.merge uncheckedOverrides).resolve checkedSuite = .ok flatOptions :=
    rfl
  obtain ⟨-, -, -, hcomes, hagain⟩ :=
    resolve_merge_precedence (c := flatConfig) (s := checkedSuite) hgrounding hendpoint
  exact ⟨hgrounding, hendpoint, hresolve, (hcomes _).1 hresolve, hagain _ hresolve⟩

end Grounding

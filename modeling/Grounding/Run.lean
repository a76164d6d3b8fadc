import Grounding.Config.Basic
import Grounding.Driver.Ground
import Grounding.Files.Access

/-!
# Runs

A run fills in the options that were left open, makes the packages of the driver, and writes it.
What the configuration leaves open comes from the suite, and then from the grounding.
-/

namespace Grounding

/-- The grounding when nothing asks for another one. -/
def defaultSelector : String := "in-process"

/-- The options of a run, none of them open. -/
structure RunOptions where
  backend : Backend
  metaCheck : Bool
  /-- The address of the service, if there is one. -/
  endpoint : Option String
  targetPackage : String
  sourcePackages : List String
  outputDir : String
  clientPackage : String
  testPackage : String
deriving DecidableEq, Repr

def RunOptions.config (o : RunOptions) : Config where
  grounding := some o.backend.selector
  metaCheck := some o.metaCheck
  endpoint := o.endpoint
  targetPackage := some o.targetPackage
  sourcePackages := o.sourcePackages
  outputDir := o.outputDir
  clientPackage := o.clientPackage
  testPackage := o.testPackage

/-- Why a run fails. -/
inductive RunError where
  | unsupported (selector : String)
  | outputNotDirectory (path : Path)
  | file (e : FileError)
  | ground (e : GroundError)

def RunError.message : RunError → String
  | unsupported selector =>
    "Unsupported grounding: " ++ selector ++ " (expected one of " ++
      ", ".intercalate (Backend.all.map Backend.selector) ++ ")"
  | outputNotDirectory path => "Output location is not a directory: " ++ path.text
  | file e => e.message
  | ground e => e.message

/-! ### Open options -/

/-- A text, unless it is missing or empty. -/
def given? (s : Option String) : Option String := s.filter fun t => !t.isEmpty

/-- Fills in the options that a configuration leaves open. -/
def Config.resolve (c : Config) (s : TestSuite) : Except RunError RunOptions :=
  let selector := ((given? c.grounding).or (given? s.grounding)).getD defaultSelector
  match Backend.ofSelector? selector with
  | none => .error (.unsupported selector)
  | some b =>
    .ok {
      backend := b
      metaCheck := c.metaCheck.getD s.metaCheck
      endpoint := (given? c.endpoint).or b.defaultEndpoint?
      targetPackage := c.targetPackage.getD (c.testPackage ++ "." ++ b.extension)
      sourcePackages :=
        if c.sourcePackages.isEmpty then [c.clientPackage ++ "." ++ b.extension]
        else c.sourcePackages
      outputDir := c.outputDir
      clientPackage := c.clientPackage
      testPackage := c.testPackage }

/-! ### Places -/

/-- The components of a package name; a package without a name has none. -/
def packageParts (package : String) : List String :=
  if package.isEmpty then [] else (package.toList.splitOn '.').map String.ofList

namespace RunOptions

/-- The directory of the packages. -/
def outputPath (o : RunOptions) (root : Path) : Path := o.config.outputPath root

/-- The directory of the package of the driver. -/
def packagePath (o : RunOptions) (root : Path) : Path :=
  (packageParts o.targetPackage).foldl Path.child (o.outputPath root)

def driverPath (o : RunOptions) (root : Path) (s : TestSuite) : Path :=
  (o.packagePath root).child ("test_" ++ Text.snakeCase s.name ++ ".py")

def driverOptions (o : RunOptions) (generatedAt : Moment) : DriverOptions where
  backend := o.backend
  metaCheck := some o.metaCheck
  endpoint := o.endpoint
  targetPackage := o.targetPackage
  sourcePackages := o.sourcePackages
  generatedAt := generatedAt

end RunOptions

/-- The file that makes a directory a package. -/
def markerName : String := "__init__.py"

/-! ### Running -/

structure RunResult where
  driverPath : Path
  options : RunOptions
  record : DependencyRecord
  /-- The number of test methods. -/
  testCount : Nat
  /-- The package markers that were made, and the driver. -/
  filesCreated : List Path

namespace Run

variable {m : Type → Type} [Monad m] [FileAccess m]

def files {α : Type} (action : m (Except FileError α)) : ExceptT RunError m α :=
  ExceptT.mk do return (← action).mapError .file

/-- Asks about files within a run. -/
def asking {α : Type} (action : m α) : ExceptT RunError m α :=
  ExceptT.mk do return .ok (← action)

/-- Makes the marker of a package unless it is there. -/
def ensureMarker (marker : Path) : ExceptT RunError m (List Path) := do
  match ← asking (FileAccess.kind? marker) with
  | some _ => return []
  | none =>
    files (FileAccess.write marker "")
    return [marker]

/-- Makes the packages below a directory, and gives the markers that were made. -/
def ensurePackages (directory : Path) : List String → ExceptT RunError m (List Path)
  | [] => return []
  | part :: rest => do
    let package := directory.child part
    files (FileAccess.ensureDirectory package)
    let made ← ensureMarker (package.child markerName)
    return made ++ (← ensurePackages package rest)

/-- Writes the driver of a suite as far as it goes. -/
def writeDriver (path : Path) (g : Grounded) : ExceptT RunError m DependencyRecord := do
  files (FileAccess.write path g.text)
  match g.result with
  | .ok record => return record
  | .error e => throw (.ground e)

end Run

/-- Writes the driver of a suite into its package below the directory of a project. -/
def Config.run {m : Type → Type} [Monad m] [FileAccess m] (c : Config) (root : Path)
    (s : TestSuite) (generatedAt : Moment) : ExceptT RunError m RunResult := do
  let o ←
    match c.resolve s with
    | .ok o => pure o
    | .error e => throw e
  let output := o.outputPath root
  if (← Run.asking (FileAccess.kind? output)) == some .file then
    throw (.outputNotDirectory output)
  Run.files (FileAccess.ensureDirectories output output.parts.length)
  let markers ← Run.ensurePackages output (packageParts o.targetPackage)
  let path := o.driverPath root s
  let record ← Run.writeDriver path (s.ground (o.driverOptions generatedAt))
  return {
    driverPath := path
    options := o
    record := record
    testCount := s.sequences.length
    filesCreated := markers ++ [path] }

end Grounding

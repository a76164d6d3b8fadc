import Grounding.Command.Help
import Grounding.Command.Table
import Grounding.Config.Load
import Grounding.Markup.Plain
import Grounding.Run
import Grounding.Suite.Load
import Grounding.Version

/-!
# Performing commands

A command ends with something to display or with an error. Errors that concern what the program was
given are reported in its own words; the others are faults of its surroundings, such as a file that
cannot be written, or of a value that does not admit an operation.
-/

namespace Grounding

inductive Display where
  | lines (ls : List String)
  | table (t : Table)
deriving DecidableEq, Repr

def Display.render (terminal : Nat) : Display → List String
  | lines ls => ls.flatMap fun s => (Text.wrap .fold .free terminal s.toList).map String.ofList
  | table t => t.render terminal

def Table.columns (t : Table) : List (List String) :=
  t.header.zipIdx.map fun (text, i) => text :: t.rows.filterMap (·[i]?)

/-- The table without the markup of its texts. The columns are read first, since they have to be
measured; then the title is read, and what the texts ask for is checked from the title on. -/
def Table.plain (t : Table) : Except Markup.MarkupError Table := do
  let _ ← t.columns.mapM fun texts => texts.mapM Markup.read
  return {
    title := ← Markup.plain t.title
    header := ← t.header.mapM Markup.plain
    rows := ← t.rows.mapM fun row => row.mapM Markup.plain }

/-- Why a command fails. -/
inductive CommandError where
  | suite (e : SuiteError)
  | config (e : ConfigError)
  | run (e : RunError)
  | descriptor (e : DescriptorError)
  /-- Something to be displayed has bad markup. -/
  | markup (e : Markup.MarkupError)

namespace CommandError

def message : CommandError → String
  | suite e => e.message
  | config e => e.message
  | run e => e.message
  | descriptor e => e.message
  | markup e => e.message

end CommandError

/-- Whether a fault concerns what the program was given. -/
def Fault.isReported : Fault → Bool
  | descriptor _ | literal _ | external _ => true
  | _ => false

/-- Whether an error of a suite concerns what the program was given. -/
def SuiteError.isReported : SuiteError → Bool
  | unreadable _ e => e.cause != .nullCharacter
  | invalid _ _ => true

/-- Whether an error of a run concerns what the program was given. -/
def RunError.isReported : RunError → Bool
  | unsupported _ | outputNotDirectory _ | ground (.noOperation _ _) => true
  | ground (.fault f) => f.isReported
  | file _ => false

/-- Whether an error concerns what the program was given. -/
def CommandError.isReported : CommandError → Bool
  | descriptor _ | config (.malformed _) | config (.invalid _ _) => true
  | suite e => e.isReported
  | run e => e.isReported
  | _ => false

namespace Command

/-- A command at work: it may fail, and it keeps the lines of its log. -/
abbrev Task (m : Type → Type) := ExceptT CommandError (StateT (List String) m)

variable {m : Type → Type} [Monad m] [FileAccess m]

/-- A step of a command that may fail on its own account. -/
def step {ε α : Type} (wrap : ε → CommandError) (action : m (Except ε α)) : Task m α :=
  ExceptT.mk do return (← StateT.lift action).mapError wrap

def result {ε α : Type} (wrap : ε → CommandError) (r : Except ε α) : Task m α :=
  ExceptT.mk (pure (r.mapError wrap))

/-- Adds a line to the log. -/
def note (line : String) : Task m Unit :=
  ExceptT.lift (modify (· ++ ["DEBUG " ++ programName ++ ": " ++ line]))

/-! ### Displays -/

def orDefault (name phrase : String) : String := if name.isEmpty then phrase else name

/-- The word for a truth value. -/
def yesNo (b : Bool) : String := if b then "[green]yes[/green]" else "no"

/-- What is said of a run, with markup. -/
def summary (r : RunResult) : List String :=
  ["[green]✓[/green] Wrote " ++ r.driverPath.text,
    "[dim]" ++ toString r.testCount ++ " test(s), grounding " ++ r.options.backend.selector ++
      ", package " ++ orDefault r.options.targetPackage "(default)" ++ "[/dim]"]

/-- The dependencies of a driver, with markup. -/
def dependencyTable (s : TestSuite) (r : DependencyRecord) : Table where
  title := "Dependencies of " ++ s.driver
  header := ["Property", "Value"]
  rows :=
    [["needs factory", yesNo r.needsFactory],
      ["factory inputs", yesNo (r.synthesized .input)],
      ["factory outputs", yesNo (r.synthesized .output)],
      ["generic inputs", yesNo (r.generic .input)],
      ["generic outputs", yesNo (r.generic .output)],
      ["target package", orDefault r.targetPackage "[dim](default)[/dim]"]] ++
    r.imports.map fun location => ["import", location]

def groundingsTable : Table where
  title := "Groundings"
  header := ["Name", "Package suffix", "Default endpoint", "Description"]
  rows := Backend.all.map fun b =>
    [b.selector, b.extension, b.defaultEndpoint?.getD "", b.description]

/-! ### Performing -/

/-- Writes the driver of a suite. -/
def performGround (root : Path) (now : Moment) (suite : Path) (settings : GroundSettings) :
    Task m Display := do
  let s ← step .suite (TestSuite.load suite)
  let file := settings.configFile.getD (root.child Config.fileName)
  let c := (← step .config (Config.load file)).merge settings.overrides
  if settings.verbose then note ("Resolved configuration, output in " ++ c.outputDir)
  let r ← step .run (c.run root s now).run
  return .lines (← result .markup ((summary r).mapM Markup.plain))

/-- Shows what the driver of a suite would depend on. -/
def performAnalyse (suite : Path) (settings : AnalyseSettings) : Task m Display := do
  let s ← step .suite (TestSuite.load suite)
  let r ← result .descriptor (s.analyse settings.targetPackage settings.sourcePackages)
  return .table (← result .markup (dependencyTable s r).plain)

def perform (root : Path) (now : Moment) : Command → Task m Display
  | .ground suite settings => performGround root now suite settings
  | .analyse suite settings => performAnalyse suite settings
  | .groundings => return .table groundingsTable
  | .version => return .lines [programName ++ " " ++ Grounding.version]
  | .help none => return .lines programHelp
  | .help (some name) => return .lines (commandHelp name)

end Command

end Grounding

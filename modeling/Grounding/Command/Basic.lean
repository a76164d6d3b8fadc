import Grounding.Command.Words
import Grounding.Config.Basic

/-!
# Commands

The commands of the program with their arguments, as they are read from the command line.
-/

namespace Grounding

/-- What the options of `ground` tell. -/
structure GroundSettings where
  overrides : Config.Overrides := {}
  /-- The configuration file, if it is not the one of the project. -/
  configFile : Option Path := none
  verbose : Bool := false
deriving DecidableEq, Repr

/-- What the options of `analyse` tell. -/
structure AnalyseSettings where
  targetPackage : String := ""
  sourcePackages : List String := []
deriving DecidableEq, Repr

inductive CommandName where
  | ground
  | analyse
  | groundings
deriving DecidableEq, Repr

namespace CommandName

def all : List CommandName := [ground, analyse, groundings]

def word : CommandName → String
  | ground => "ground"
  | analyse => "analyse"
  | groundings => "groundings"

def description : CommandName → String
  | ground => "Write a test driver for an abstract test suite."
  | analyse => "Show the dependency analysis of a suite."
  | groundings => "List the available groundings."

def ofWord? (w : String) : Option CommandName := all.find? fun c => c.word == w

end CommandName

/-- What the program is asked to do. -/
inductive Command where
  | ground (suite : Path) (settings : GroundSettings)
  | analyse (suite : Path) (settings : AnalyseSettings)
  | groundings
  | version
  /-- How to use a command, or the program. -/
  | help (about : Option CommandName)
deriving DecidableEq, Repr

namespace Command

/-! ### Options -/

def helpOption {α : Type} : CommandOption α :=
  ⟨["--help"], .request .help, "Show this message and exit."⟩

def programOptions : List (CommandOption Unit) :=
  [⟨["--version", "-V"], .request .version, "Show version and exit"⟩, helpOption]

/-- An option of `ground` whose value is one of the overrides. -/
def override (names : List String) (set : String → Config.Overrides → Config.Overrides)
    (description : String) : CommandOption GroundSettings :=
  ⟨names, .value fun v s => { s with overrides := set v s.overrides }, description⟩

/-- An option of `ground` that turns the checks of reports on or off. -/
def metaCheckFlag (name : String) (on : Bool) (description : String) :
    CommandOption GroundSettings :=
  ⟨[name], .flag fun s => { s with overrides := { s.overrides with metaCheck := some on } },
    description⟩

def groundOptions : List (CommandOption GroundSettings) :=
  [override ["--grounding", "-g"] (fun v o => { o with grounding := some v })
      "Grounding to use: in-process, rpc or rest (overrides config and suite)",
    metaCheckFlag "--meta-check" true
      "Also check the reported scenario and state after each verified step",
    metaCheckFlag "--no-meta-check" false "Check neither scenario nor state",
    override ["--endpoint", "-e"] (fun v o => { o with endpoint := some v })
      "Service URI (rpc and rest groundings)",
    override ["--target-package", "-t"] (fun v o => { o with targetPackage := some v })
      "Package to write the driver into",
    override ["--source-package", "-s"]
      (fun v o => { o with sourcePackages := o.sourcePackages ++ [v] })
      "Package to import the system under test from (repeatable)",
    override ["--output", "-o"] (fun v o => { o with outputDir := some (Path.ofText v).text })
      "Output directory (overrides specground.toml config)",
    ⟨["--config", "-c"], .value fun v s => { s with configFile := some (Path.ofText v) },
      "Configuration file (default: ./specground.toml)"⟩,
    ⟨["--verbose"], .flag fun s => { s with verbose := true },
      "Log analysis and resolution details"⟩,
    helpOption]

def analyseOptions : List (CommandOption AnalyseSettings) :=
  [⟨["--target-package", "-t"], .value fun v s => { s with targetPackage := v },
      "Package the driver would be written into"⟩,
    ⟨["--source-package", "-s"],
      .value fun v s => { s with sourcePackages := s.sourcePackages ++ [v] },
      "Package the system under test would be imported from (repeatable)"⟩,
    helpOption]

def groundingsOptions : List (CommandOption Unit) := [helpOption]

/-! ### Reading -/

def ofRequest (about : Option CommandName) : Request → Command
  | .help => .help about
  | .version => .version

def suiteArgument : String := "SUITE_FILE"

def oneSuite : List String → Except UsageError Path
  | [] => .error (.missingArgument suiteArgument)
  | [word] => .ok (Path.ofText word)
  | _ :: extra => .error (.extraArguments extra)

def noArgument : List String → Except UsageError Unit
  | [] => .ok ()
  | extra => .error (.extraArguments extra)

def parseArguments (name : CommandName) (words : List String) : Except UsageError Command := do
  match name with
  | .ground =>
    let r ← readWords groundOptions true words { value := {} }
    if let some q := r.request then return ofRequest name q
    return .ground (← oneSuite r.arguments) r.value
  | .analyse =>
    let r ← readWords analyseOptions true words { value := {} }
    if let some q := r.request then return ofRequest name q
    return .analyse (← oneSuite r.arguments) r.value
  | .groundings =>
    let r ← readWords groundingsOptions true words { value := () }
    if let some q := r.request then return ofRequest name q
    noArgument r.arguments
    return .groundings

/--
Reads a command line. Words that were meant as a command but look like options of the program are
taken as such.
-/
def parse (words : List String) : Except UsageError Command := do
  let r ← readWords programOptions false words { value := () }
  if let some q := r.request then return ofRequest none q
  match r.arguments with
  | [] => throw .missingCommand
  | word :: rest =>
    match CommandName.ofWord? word with
    | some name => parseArguments name rest
    | none =>
      let again ← readWords programOptions false r.arguments { value := () }
      match again.request with
      | some q => return ofRequest none q
      | none => throw (.noSuchCommand word)

end Command

end Grounding

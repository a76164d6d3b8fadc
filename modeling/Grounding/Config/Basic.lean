import Grounding.Files.Path

/-!
# Configuration

The options of a run, where most may be left open. What the command line gives takes precedence over
the configuration file.
-/

namespace Grounding

/-- The options of a run. -/
structure Config where
  /-- The selector of the grounding. -/
  grounding : Option String := none
  /-- Whether reports are checked. -/
  metaCheck : Option Bool := none
  /-- The address of the service. -/
  endpoint : Option String := none
  /-- The package of the driver. -/
  targetPackage : Option String := none
  /-- The packages of the system under test; none at all leaves them open. -/
  sourcePackages : List String := []
  /-- The directory of the packages. -/
  outputDir : String := "generated/"
  /-- The root of the default source package. -/
  clientPackage : String := "client"
  /-- The root of the default package of the driver. -/
  testPackage : String := "generated"
deriving DecidableEq, Repr

namespace Config

/-- The directory of the packages, seen from the directory of the project. -/
def outputPath (c : Config) (root : Path) : Path := root ++ Path.ofText c.outputDir

/-- Options that replace others, as far as they are given. -/
structure Overrides where
  grounding : Option String := none
  metaCheck : Option Bool := none
  endpoint : Option String := none
  targetPackage : Option String := none
  /-- Given unless there are none. -/
  sourcePackages : List String := []
  outputDir : Option String := none
  clientPackage : Option String := none
  testPackage : Option String := none
deriving DecidableEq, Repr

/-- The options with others in their place. -/
def merge (c : Config) (o : Overrides) : Config where
  grounding := o.grounding.or c.grounding
  metaCheck := o.metaCheck.or c.metaCheck
  endpoint := o.endpoint.or c.endpoint
  targetPackage := o.targetPackage.or c.targetPackage
  sourcePackages := if o.sourcePackages.isEmpty then c.sourcePackages else o.sourcePackages
  outputDir := o.outputDir.getD c.outputDir
  clientPackage := o.clientPackage.getD c.clientPackage
  testPackage := o.testPackage.getD c.testPackage

end Config

end Grounding

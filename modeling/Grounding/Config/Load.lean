import Grounding.Config.Basic
import Grounding.Files.Access
import Grounding.Toml.Reader

/-!
# Configuration files

The options of a project stand in the table `grounding` of a TOML document. A file that is missing,
and a table that is missing or empty, leave everything open.
-/

namespace Grounding

/-- Why a configuration file cannot be used. -/
inductive ConfigError where
  | unreadable (e : FileError)
  | malformed (path : Path)
  | tooManyDigits (count : Nat)
  /-- Something other than a table stands in its place. -/
  | notTable (type : String)
  | invalid (path : Path) (issues : List Issue)

namespace ConfigError

/-- The first line of an error, without what is wrong with the document. -/
def message : ConfigError → String
  | unreadable e => e.message
  | malformed path => "Invalid configuration file " ++ path.text
  | tooManyDigits count => Numeral.limitMessage count
  | notTable type =>
    "specground.core.config.GroundingConfig() argument after ** must be a mapping, not " ++ type
  | invalid path _ => "Invalid [grounding] section in " ++ path.text ++ ":"

end ConfigError

namespace Config

open Reader

def tableName : String := "grounding"

def fileName : String := "specground.toml"

def optionNames : List String :=
  ["grounding", "meta_check", "endpoint", "target_package", "source_packages", "output_dir",
    "client_package", "test_package"]

def unknownMembers (ms : List (String × Toml)) : List Issue :=
  (ms.filter fun m => !optionNames.contains m.1).map fun m => ⟨[.member m.1], .unknownMember⟩

/-- The options in the members of a table. -/
def ofMembers (ms : List (String × Toml)) : Validated Config :=
  (Config.mk <$> defaulted "grounding" (optional text) none ms <*>
      defaulted "meta_check" (optional bool) none ms <*>
      defaulted "endpoint" (optional text) none ms <*>
      defaulted "target_package" (optional text) none ms <*>
      defaulted "source_packages" (list text) [] ms <*>
      defaulted "output_dir" text ({} : Config).outputDir ms <*>
      defaulted "client_package" text ({} : Config).clientPackage ms <*>
      defaulted "test_package" text ({} : Config).testPackage ms).withIssues (unknownMembers ms)

/-- The options in a document that has been read. -/
def ofDocument (path : Path) (members : List (String × Toml)) : Except ConfigError Config :=
  match members.lookup tableName with
  | none => .ok {}
  | some options =>
    if !options.isTruthy then .ok {}
    else
      match options with
      | .table ms => (ofMembers ms).toExcept.mapError (.invalid path)
      | other => .error (.notTable other.typeName)

/-- The options in the text of a file. -/
def parse (path : Path) (document : String) : Except ConfigError Config :=
  match Toml.parse document with
  | .ok members => ofDocument path members
  | .error .malformed => .error (.malformed path)
  | .error (.tooManyDigits count) => .error (.tooManyDigits count)

def load {m : Type → Type} [Monad m] [FileAccess m] (path : Path) :
    m (Except ConfigError Config) := do
  match ← FileAccess.kind? path with
  | none => return .ok {}
  | some _ =>
    match ← FileAccess.read path with
    | .ok document => return parse path document
    | .error e => return .error (.unreadable e)

end Config

end Grounding

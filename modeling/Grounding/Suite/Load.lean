import Grounding.Files.Access
import Grounding.Suite.Document

/-!
# Loading suites
-/

namespace Grounding

inductive SuiteError where
  | unreadable (path : Path) (e : FileError)
  | invalid (path : Path) (issues : List Issue)

namespace SuiteError

/-- The first line of an error. -/
def message : SuiteError → String
  | unreadable path e => "Cannot read test suite " ++ path.text ++ ": " ++ e.message
  | invalid path _ => "Invalid test suite " ++ path.text ++ ":"

def issues : SuiteError → List Issue
  | unreadable _ _ => []
  | invalid _ issues => issues

end SuiteError

namespace TestSuite

def ofFile (path : Path) (content : Except FileError String) : Except SuiteError TestSuite :=
  match content with
  | .error e => .error (.unreadable path e)
  | .ok document => (parse document).toExcept.mapError (.invalid path)

def load {m : Type → Type} [Monad m] [FileAccess m] (path : Path) :
    m (Except SuiteError TestSuite) := do
  return ofFile path (← FileAccess.read path)

end TestSuite

end Grounding

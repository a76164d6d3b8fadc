/-!
# Version
-/

namespace Grounding

/-- The version that drivers and the command line report. -/
def version : String := "0.3.0"

end Grounding

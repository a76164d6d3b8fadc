import Grounding.Suite.Basic
import Grounding.Synthesis.Model

/-!
# Evaluation of parameters

What the value of a parameter is in the model.
-/

namespace Grounding.Parameter

/-- The value of a parameter; one that is not bound has none. -/
def evaluate (p : Parameter) : Except Fault Value :=
  if p.bound then Synthesis.createText Model.externals .bracket p.content p.type else .ok .none

end Grounding.Parameter

import Grounding.Synthesis.Decode

/-!
# Values of a model

In a model an external type has no structure. Its values are entities, known by their identifiers.
-/

namespace Grounding.Model

def externals {m : Type → Type} [Monad m] [MonadExcept Fault m] : Externals m where
  ofIdentifier _ identifier := pure (.entity identifier)
  ofMembers type members := throw (.literal (.undecodable type (.object members)))

def create (d : Descriptor) (literal : String) : Except Fault Value :=
  Synthesis.create externals d literal.toList

def decode (d : Descriptor) (data : Json) : Except Fault Value :=
  Synthesis.decode externals d data

end Grounding.Model

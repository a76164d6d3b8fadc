import Grounding.Descriptor.Parser
import Grounding.Driver.Import
import Grounding.Suite.Basic

/-!
# Dependencies of a driver

Before a driver is written, the operations of its suite are searched for parameters whose values
have to be synthesised. These are the ones whose type is not just the name of a primitive type. They
decide what the driver imports.
-/

namespace Grounding

/-- A name that a driver imports for its own use. -/
inductive Binding where
  | factory
  | container (c : Container)
deriving DecidableEq, Repr

namespace Binding

def key : Binding → String
  | factory => "Factory"
  | container c => c.name

def location : Binding → String
  | factory => "specground.ground.factory.HostFactory"
  | container .list => "typing.List"
  | container .set => "typing.Set"
  | container .map => "typing.Dict"
  | container .pair => "specground.ground.values.Pair"

end Binding

/-- The side of an operation that a parameter is on. -/
inductive Side where
  | input
  | output
deriving DecidableEq, Repr

def Operation.parameters (o : Operation) : Side → List Parameter
  | .input => o.inputs
  | .output => o.outputs

structure DependencyRecord where
  /-- The bindings in the order in which they were first needed. -/
  bindings : List Binding
  /-- Whether a parameter on this side is synthesised. -/
  synthesized : Side → Bool
  /-- Whether a parameter on this side has a generic type. -/
  generic : Side → Bool
  /-- The package of the driver. -/
  targetPackage : String
  /-- The packages of the system under test, without repetition. -/
  sourcePackages : List String

namespace DependencyRecord

/-- Whether a value is synthesised at all. -/
def needsFactory (r : DependencyRecord) : Bool := r.bindings.contains .factory

/-- The bindings as pairs of a key and a location. -/
def locations (r : DependencyRecord) : List (String × String) :=
  r.bindings.map fun b => (b.key, b.location)

/-- The source packages that a driver imports from: those with a name, apart from its own. -/
def importedPackages (r : DependencyRecord) : List String :=
  r.sourcePackages.filter fun p => !p.isEmpty && p != r.targetPackage

/-- The dotted locations of all imports: the bindings, then all names of each package. -/
def imports (r : DependencyRecord) : List String :=
  r.bindings.map Binding.location ++ r.importedPackages.map (· ++ ".*")

def importLines (r : DependencyRecord) : List String := r.imports.map importLine

end DependencyRecord

/-! ### Analysis -/

namespace Operation

/-- The parameters of an operation whose values are synthesised, each with its side. -/
def synthesized (o : Operation) : List (Side × Parameter) :=
  [Side.input, Side.output].flatMap fun side =>
    ((o.parameters side).filter fun p => !isPrimitiveText p.type).map fun p => (side, p)

end Operation

/-- The bindings that a type needs, outermost first. -/
def Descriptor.bindings (d : Descriptor) : List Binding :=
  .factory :: d.containers.map .container

/-- The parameters of a suite whose values are synthesised, each with its side. -/
def TestSuite.synthesized (s : TestSuite) : List (Side × Parameter) :=
  s.operations.flatMap Operation.synthesized

/-- The dependencies of the driver of a suite, unless a descriptor is malformed. -/
def TestSuite.analyse (s : TestSuite) (targetPackage : String) (sourcePackages : List String) :
    Except DescriptorError DependencyRecord := do
  let used := s.synthesized
  let types ← used.mapM fun u => Descriptor.parse .bracket u.2.type
  return {
    bindings := (types.flatMap Descriptor.bindings).eraseDups
    synthesized := fun side => used.any fun u => u.1 == side
    generic := fun side => used.any fun u => u.1 == side && isGenericText u.2.type
    targetPackage := targetPackage
    sourcePackages := sourcePackages.eraseDups }

end Grounding

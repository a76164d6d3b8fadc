import Grounding.Driver.Header
import Grounding.Driver.Method

/-!
# Grounding

Turns an abstract test suite into a driver. Nothing is written before all steps are known to have
operations and all types to be well-formed; a literal that turns out malformed later ends the text.
-/

namespace Grounding

structure DriverOptions where
  backend : Backend
  /-- Whether reports are checked; otherwise the suite decides. -/
  metaCheck : Option Bool
  /-- The address of the service; otherwise the grounding decides. -/
  endpoint : Option String
  targetPackage : String
  sourcePackages : List String
  generatedAt : Moment

/-- Why a suite has no driver. -/
inductive GroundError where
  /-- A step that is not initial lacks an operation; sequences are numbered from one. -/
  | noOperation (step : String) (sequence : Nat)
  | fault (f : Fault)

def GroundError.message : GroundError → String
  | noOperation step sequence =>
    "Step " ++ step ++ " of TestSequence #" ++ toString sequence ++ " has no operation"
  | fault f => f.message

/-- Whether a step needs an operation and has none. -/
def TestStep.lacksOperation (s : TestStep) : Bool := s.kind != .initial && s.operation.isNone

/-- Checks that the steps of all sequences have operations, from the given number on. -/
def checkOperations (number : Nat) : List TestSequence → Except GroundError Unit
  | [] => .ok ()
  | q :: rest =>
    match q.steps.find? TestStep.lacksOperation with
    | some s => .error (.noOperation s.name number)
    | none => checkOperations (number + 1) rest

namespace TestSuite

def checksReports (s : TestSuite) (o : DriverOptions) : Bool := o.metaCheck.getD s.metaCheck

def heading (s : TestSuite) (o : DriverOptions) (r : DependencyRecord) : Heading where
  backend := o.backend
  system := s.name
  notices := s.notices
  record := r
  metaCheck := s.checksReports o
  endpoint :=
    match o.endpoint with
    | none | some "" => o.backend.defaultEndpoint?.getD ""
    | some endpoint => endpoint
  generatedAt := o.generatedAt

def emit (s : TestSuite) (o : DriverOptions) (r : DependencyRecord) : Emission Unit := do
  let h := s.heading o r
  .write h.preamble
  .block h.classHeader do
    .write h.classHead
    o.backend.methodsFrom (s.checksReports o) 1 s.sequences

/-- The checks that precede all writing. -/
def prepare (s : TestSuite) (o : DriverOptions) : Except GroundError DependencyRecord := do
  checkOperations 1 s.sequences
  (s.analyse o.targetPackage o.sourcePackages).mapError fun e => .fault (.descriptor e)

end TestSuite

/-- The text of a driver, or what had been written of it before an error. -/
structure Grounded where
  text : String
  result : Except GroundError DependencyRecord

def TestSuite.ground (s : TestSuite) (o : DriverOptions) : Grounded :=
  match s.prepare o with
  | .error e => ⟨"", .error e⟩
  | .ok r =>
    let e := s.emit o r
    ⟨Code.textAt 0 e.code, (e.result.mapError .fault).map fun _ => r⟩

end Grounding

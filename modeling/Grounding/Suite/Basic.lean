/-!
# Test suites

An abstract test suite for a system: sequences of steps, each of which invokes one operation with
typed inputs and expects typed outputs or a failure. The values are literals of a model.
-/

namespace Grounding

/-- A typed slot of an operation. -/
structure Parameter where
  name : String
  /-- The descriptor of its type. -/
  type : String
  /-- The literal of its value. -/
  content : Option String
  /-- Whether it holds a value at all. -/
  bound : Bool
deriving DecidableEq, Repr

structure Operation where
  name : String
  inputs : List Parameter
  outputs : List Parameter
  /-- Failures the service may report; the content of each is the expected text. -/
  failures : List Parameter
deriving DecidableEq, Repr

namespace Operation

def isCreation (o : Operation) : Bool := o.name == "create"

def isFailure (o : Operation) : Bool := o.failures.any (·.bound)

/-- The failure whose text is expected. -/
def firstFailure? (o : Operation) : Option Parameter := o.failures.head?

end Operation

/-- How a step is written in a driver. -/
inductive StepKind where
  | initial
  | normal
  | failure
deriving DecidableEq, Repr

def StepKind.name : StepKind → String
  | initial => "initial"
  | normal => "normal"
  | failure => "failure"

structure TestStep where
  name : String
  /-- The state that the step leads to. -/
  state : String
  /-- Whether the outcome is checked. -/
  verify : Bool
  operation : Option Operation
deriving DecidableEq, Repr

namespace TestStep

/-- The name of the steps that set up the system. -/
def initialName : String := "create/ok"

def kind (s : TestStep) : StepKind :=
  if s.name == initialName then .initial
  else if s.operation.any Operation.isFailure then .failure
  else .normal

/-- The scenario of a step: its name without a subscript in brackets. -/
def scenario (s : TestStep) : String := String.ofList (s.name.toList.takeWhile (· != '['))

end TestStep

/-- An ordered run of steps. -/
structure TestSequence where
  /-- The number of the sequence, or zero. -/
  test : Int
  /-- The state that the sequence sets out to reach. -/
  state : String
  /-- The length of the path explored from that state. -/
  path : Int
  steps : List TestStep
deriving DecidableEq, Repr

namespace TestSequence

/-- The number of steps that are checked. -/
def verifyCount (s : TestSequence) : Nat := s.steps.countP (·.verify)

/-- The state after the first step. -/
def source? (s : TestSequence) : Option String := s.steps.head?.map (·.state)

/-- The state after the last step. -/
def target? (s : TestSequence) : Option String := s.steps.getLast?.map (·.state)

/-- Whether some operation may fail without being expected to. -/
def hasFailures (s : TestSequence) : Bool :=
  s.steps.any fun step => step.operation.any fun o => o.failures.any fun f => !f.bound

end TestSequence

inductive NoticeKind where
  | info
  | warning
deriving DecidableEq, Repr

def NoticeKind.name : NoticeKind → String
  | info => "info"
  | warning => "warning"

/-- A remark of the generator of a suite. -/
structure Notice where
  kind : NoticeKind
  text : String
deriving DecidableEq, Repr

structure TestSuite where
  /-- The name of the system. -/
  name : String
  /-- The grounding that the suite asks for. -/
  grounding : Option String
  /-- Whether the scenario and the state are checked after each checked step. -/
  metaCheck : Bool
  sequences : List TestSequence
  notices : List Notice
deriving DecidableEq, Repr

namespace TestSuite

def driver (s : TestSuite) : String := s.name ++ "Test"

def noticesOf (kind : NoticeKind) (s : TestSuite) : List Notice :=
  s.notices.filter (·.kind == kind)

/-- The operations of all steps, in order. -/
def operations (s : TestSuite) : List Operation :=
  s.sequences.flatMap fun q => q.steps.filterMap (·.operation)

end TestSuite

end Grounding

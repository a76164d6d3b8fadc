import Grounding.Driver.Backend
import Grounding.Driver.Code
import Grounding.Suite.Evaluation

/-!
# Test methods

Each sequence becomes a test method, and each step of it a call with the checks that it asks for.
A method depends on the grounding, on whether reports are checked, and on its own sequence alone.
-/

namespace Grounding

/-- Reads the type of a parameter. -/
def Parameter.descriptor (p : Parameter) : Except Fault Descriptor :=
  (Descriptor.parse .bracket p.type).mapError .descriptor

/-- The value of a parameter as a driver writes it. -/
def Parameter.operand (p : Parameter) : Except Fault Operand :=
  if !p.bound then .ok .absent
  else if isLiteralText p.type then p.evaluate.map .constant
  else p.descriptor.map (.synthesized (p.content.getD ""))

namespace Backend

def call (b : Backend) (o : Operation) : Except Fault Call :=
  match b with
  | .inProcess | .rpc => (o.inputs.mapM Parameter.operand).map (.direct o.name)
  | .rest => (o.inputs.mapM fun (p : Parameter) => p.evaluate.map Value.literal).map (.path o.name)

/-! ### Results -/

/-- How a response with a value of a type is decoded. -/
def decoder (d : Descriptor) : Decoder := if d.hasExternal then .factory d else .adapter d

/-- How a response with several values of a type is decoded. -/
def listDecoder (d : Descriptor) : Decoder :=
  if d.hasExternal then .factory (.list d) else .listAdapter d

def receiveDirect (c : Call) (several : Assigned) (step : Nat) :
    List Parameter → Emission Unit
  | [] => .statement (.invoke c)
  | [p] => do
    let d ← .calculate p.descriptor
    .statement (.assign (.receiver p.name step) (some d) (.call c))
  | _ => .statement (.assign (.actual step) none several)

def receiveResponse (c : Call) (step : Nat) (outputs : List Parameter) : Emission Unit := do
  .statement (.assign (.response step) none (.call c))
  match outputs with
  | [] => return
  | [p] =>
    let d ← .calculate p.descriptor
    .statement (.assign (.receiver p.name step) (some d) (.decoded (decoder d) (.response step)))
  | p :: _ =>
    let d ← .calculate p.descriptor
    .statement (.assign (.actual step) none (.decoded (listDecoder d) (.response step)))

def receive (b : Backend) (c : Call) (step : Nat) (outputs : List Parameter) : Emission Unit :=
  match b with
  | .inProcess => receiveDirect c (.call c) step outputs
  | .rpc => receiveDirect c (.callItems c) step outputs
  | .rest => receiveResponse c step outputs

/-- Asserts the outputs of a call. That there are none can be seen from a response only. -/
def assertOutputs (b : Backend) (step : Nat) : List Parameter → Emission Unit
  | [] =>
    match b with
    | .inProcess | .rpc => return
    | .rest => .statement (.assertNone (.response step))
  | [p] => do
    let expected ← .calculate p.operand
    .statement (.assertEqual expected (.receiver p.name step))
  | outputs => do
    let expected ← .calculate (outputs.mapM Parameter.operand)
    .statement (.assign (.expect step) none (.list expected))
    .statement (.assertSequenceEqual (.expect step) (.actual step))

/-! ### Steps -/

def stepComment (what : String) (step : Nat) : Statement :=
  .comment ("Verify " ++ what ++ " step #" ++ toString step)

/-- The attributes that are set when the system is ready. -/
def readyFields : Backend → List String
  | .inProcess => ["system"]
  | .rpc => ["implementation", "system"]
  | .rest => ["client"]

/-- A step that sets up the system; this has been done before the method is called. -/
def initialStep (b : Backend) (step : Nat) (verify : Bool) : Emission Unit :=
  if verify then
    .statements (stepComment "service reset" step :: b.readyFields.map .assertPresent)
  else return

/-- A step that is expected to return. -/
def normalStep (b : Backend) (step : Nat) (verify : Bool) (o : Operation) : Emission Unit := do
  let c ← .calculate (b.call o)
  if verify then
    b.receive c step o.outputs
    .statement (stepComment "invocation" step)
    b.assertOutputs step o.outputs
  else .statement (.invoke c)

/-- The text that an expected failure must hold. -/
def expectedMessage (o : Operation) : String := (o.firstFailure?.bind (·.content)).getD ""

def failureStep (b : Backend) (step : Nat) (verify : Bool) (o : Operation) : Emission Unit := do
  .block "try:" do
    let c ← .calculate (b.call o)
    .statement (.invoke c)
  .block "except Exception as ex:"
    (.statement
      (if verify then .assertMessage (expectedMessage o)
        else .plain "pass  # Exception has already been verified."))
  if verify then
    .block "else:"
      (.statements [stepComment "exception" step,
        .fail ("Expected an exception: " ++ expectedMessage o)])

/-- The methods of the system, or of the driver, that report the scenario and the state. -/
def getters : Backend → String × String
  | .inProcess | .rpc => ("system.getScenario", "system.getState")
  | .rest => ("get_scenario", "get_state")

/-- Asserts the scenario and the state after a step. -/
def assertReports (b : Backend) (s : TestStep) : Emission Unit :=
  .statements [.assertReport s.scenario b.getters.1, .assertReport s.state b.getters.2]

def step (b : Backend) (metaCheck : Bool) (index : Nat) (s : TestStep) : Emission Unit := do
  match s.kind, s.operation with
  | .initial, _ => b.initialStep index s.verify
  | .normal, some o => b.normalStep index s.verify o
  | .failure, some o => b.failureStep index s.verify o
  | _, none => return
  if s.verify && metaCheck then b.assertReports s

/-- The steps of a method, the first of which has the given index. -/
def stepsFrom (b : Backend) (metaCheck : Bool) (index : Nat) : List TestStep → Emission Unit
  | [] => return
  | s :: others => do
    b.step metaCheck index s
    b.stepsFrom metaCheck (index + 1) others

/-! ### Methods -/

/-- What the docstring says when a sequence covers further tests. -/
def mergedLines (extra : Int) : List String :=
  if extra == 1 then ["This test also contains a further merged shorter test."]
  else if 1 < extra then
    ["This test also contains a further " ++ toString extra ++ " merged shorter tests."]
  else []

/-- The text of an integer, unless it has too many digits. -/
def integerText (n : Int) : Except Fault String :=
  if Numeral.isWritable n then .ok (toString n) else .error .tooLong

/-- The number that a docstring gives a sequence: its own, or its place if it has none. -/
def sequenceNumber (index : Nat) (q : TestSequence) : Except Fault String :=
  if q.test == 0 then .ok (toString index) else integerText q.test

/-- What the docstring of a method says, with the text of two numbers. -/
def summaryLines (number path : String) (q : TestSequence) : List String :=
  ["Translation of TestSequence #" ++ number ++ ".  The main test goal is to reach the",
    "state '" ++ q.state ++ "' and, from there, execute a novel path of length " ++ path ++ "."] ++
      mergedLines ((q.verifyCount : Int) - 1)

/-- The docstring of a method. The numbers of its sequence may be too long to be written; the counts
of its steps are not. -/
def methodSummary (index : Nat) (q : TestSequence) : Except Fault (List String) := do
  let number ← sequenceNumber index q
  let path ← integerText q.path
  return summaryLines number path q

def method (b : Backend) (metaCheck : Bool) (index : Nat) (q : TestSequence) : Emission Unit :=
  .block ("def test" ++ toString index ++ "(self):") do
    let summary ← .calculate (methodSummary index q)
    .write [.docstring summary]
    b.stepsFrom metaCheck 0 q.steps

/-- The methods of several sequences, a blank line before each. -/
def methodsFrom (b : Backend) (metaCheck : Bool) (index : Nat) :
    List TestSequence → Emission Unit
  | [] => return
  | q :: others => do
    .write [.blank 1]
    b.method metaCheck index q
    b.methodsFrom metaCheck (index + 1) others

end Backend

end Grounding

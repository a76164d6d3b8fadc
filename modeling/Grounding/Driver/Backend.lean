import Grounding.Driver.Dependency

/-!
# Groundings

A grounding is a convention for invoking the system under test: as a class of the same process, as a
service that is called by its operations, or as a service with a path for each call.
-/

namespace Grounding

/-- The conventions for invoking the system under test. -/
inductive Backend where
  | inProcess
  | rpc
  | rest
deriving DecidableEq, Repr

namespace Backend

def all : List Backend := [inProcess, rpc, rest]

/-- The word that selects a grounding. -/
def selector : Backend → String
  | inProcess => "in-process"
  | rpc => "rpc"
  | rest => "rest"

/-- The grounding with exactly this selector. -/
def ofSelector? (s : String) : Option Backend := all.find? fun b => b.selector == s

/-- The last part of the default package names. -/
def extension : Backend → String
  | inProcess => "local"
  | rpc => "rpc"
  | rest => "rest"

/-- The address of the service when none is given. -/
def defaultEndpoint? : Backend → Option String
  | inProcess => none
  | rpc => some "http://localhost:8080"
  | rest => some "http://my.rest.server"

/-- The attribute of a driver through which the system is reached. -/
def handle : Backend → String
  | inProcess | rpc => "system"
  | rest => "client"

/-- One line on a grounding, for listings. -/
def description : Backend → String
  | inProcess => "Direct calls on a Python class, created afresh for each test"
  | rpc => "SOAP service calls through a zeep client, reset before each test"
  | rest => "REST calls through httpx, JSON responses decoded by pydantic"

/--
Whether a driver has a factory. The inputs of a path are written out beforehand, so that only the
outputs of such a service can need one.
-/
def needsFactory (b : Backend) (r : DependencyRecord) : Bool :=
  match b with
  | inProcess | rpc => r.needsFactory
  | rest => r.synthesized .output

end Backend

end Grounding

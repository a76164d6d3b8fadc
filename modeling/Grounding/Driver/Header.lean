import Grounding.Driver.Backend
import Grounding.Driver.Code
import Grounding.Endpoint
import Grounding.Suite.Basic
import Grounding.Version

/-!
# The head of a driver

Everything before the test methods: the banner, the imports, and the class with its attributes, its
constructor, its set-up and its helpers. None of it depends on the sequences of the suite other than
through the dependency record.
-/

namespace Grounding

/-- A point in time, to the second. -/
structure Moment where
  year : Nat
  month : Nat
  day : Nat
  hour : Nat
  minute : Nat
  second : Nat
deriving DecidableEq, Repr

namespace Moment

/-- A number with at least two digits. -/
def twoDigits (n : Nat) : String := if n < 10 then "0" ++ toString n else toString n

/-- The date and the time of day. -/
def text (t : Moment) : String :=
  toString t.year ++ "-" ++ twoDigits t.month ++ "-" ++ twoDigits t.day ++ " " ++
    twoDigits t.hour ++ ":" ++ twoDigits t.minute ++ ":" ++ twoDigits t.second

end Moment

/-- What the head of a driver depends on. -/
structure Heading where
  backend : Backend
  /-- The name of the system under test. -/
  system : String
  notices : List Notice
  record : DependencyRecord
  /-- Whether the scenario and the state are checked. -/
  metaCheck : Bool
  /-- The address of the service. -/
  endpoint : String
  generatedAt : Moment

namespace Heading

def plain (lines : List String) : List Code := lines.map fun s => .statement (.plain s)

/-- The name of the driver's class. -/
def driver (h : Heading) : String := h.system ++ "Test"

def needsFactory (h : Heading) : Bool := h.backend.needsFactory h.record

/-- The address of the service description. -/
def wsdl (h : Heading) : String := Endpoint.wsdl h.endpoint h.system

def restRoot (h : Heading) : String := Endpoint.restRoot h.endpoint

/-! ### Banner and imports -/

/-- What the banner says of the system under test. -/
def about (h : Heading) : List String :=
  match h.backend with
  | .inProcess =>
    ["System-Under-Test (SUT) is the Python class: " ++ h.system ++ ",",
      "assumed to be a plain class offering methods that correspond to",
      "the operations of a service. The class is reset simply by creating",
      "a fresh instance. Its method names must match the operation names",
      "of the state machine. If it offers full inspection of its internal",
      "behaviour, it must offer two further methods, getScenario() and",
      "getState(), to report on its status."]
  | .rpc =>
    ["System Under Test (SUT) is the SOAP service: " ++ h.system ++ ",",
      "described by the WSDL document at:",
      "",
      "    " ++ h.wsdl,
      "",
      "The service must offer an explicit reset() operation to put it in a",
      "clean initial state. Session state is kept between calls by a shared",
      "HTTP session."]
  | .rest =>
    ["System Under Test (SUT) is the RESTful service: " ++ h.system,
      "accessed through the public URI:",
      "",
      "    " ++ h.restRoot,
      "",
      "Every argument is supplied as a path segment, so each type must be",
      "constructible by the server from its text. Responses must be JSON.",
      "If an operation returns several values, they must be returned as a",
      "JSON array of values of the same type. A status outside the 200",
      "series raises an exception, whose message is checked. The service",
      "must also offer an explicit reset/ operation to put it in a clean",
      "initial state."]

/-- What the banner says when the suite has warnings. -/
def coverageWarning : String := "Warning: the state machine is not fully covered!"

/-- The lines for the notices: the remarks, and one line for all warnings. -/
def noticeLines (h : Heading) : List String :=
  let remarks := (h.notices.filter (·.kind == .info)).map fun n => "    " ++ n.text
  let warnings := if h.notices.any (·.kind == .warning) then ["    " ++ coverageWarning] else []
  if h.notices.isEmpty then [] else "" :: (remarks ++ warnings)

/-- The docstring of the module. -/
def banner (h : Heading) : List Code :=
  [.docstring
    ([h.driver ++ " generated on " ++ h.generatedAt.text,
      "by specground " ++ version ++ ", grounding: " ++ h.backend.selector ++ ".", ""] ++
      h.about ++ h.noticeLines)]

def libraryImports : Backend → List String
  | .inProcess => []
  | .rpc => ["import requests", "import zeep", "from zeep.transports import Transport"]
  | .rest => ["import httpx", "from pydantic import TypeAdapter"]

/-- The imports of the dependency record; without a factory, a path grounding needs none. -/
def recordImports (h : Heading) : List String :=
  match h.backend with
  | .inProcess | .rpc => h.record.importLines
  | .rest => if h.needsFactory then h.record.importLines else []

/-- A group of imports after a blank line. -/
def importGroup (lines : List String) : List Code :=
  if lines.isEmpty then [] else .blank 1 :: plain lines

def imports (h : Heading) : List Code :=
  importGroup ["import unittest"] ++ importGroup (libraryImports h.backend) ++
    importGroup h.recordImports

/-! ### Parts of the class -/

def factoryField (h : Heading) : List Code :=
  if h.needsFactory then
    .blank 1 :: plain ["#: HostFactory to synthesise objects of complex types.",
      "factory: HostFactory = None"]
  else []

/-- The attributes of the class. -/
def fields (h : Heading) : List Code :=
  (match h.backend with
    | .inProcess =>
      plain ["#: The Python object representing the System-Under-Test.",
        "system: " ++ h.system ++ " = None"]
    | .rpc =>
      plain ["#: WSDL location of the Service-Under-Test.", "WSDL_URI = " ++ Text.quoted h.wsdl] ++
        .blank 1 :: plain
          ["#: The zeep client for the service implementation, shared by all tests.",
            "implementation: zeep.Client = None"] ++
        .blank 1 :: plain ["#: The service interface extracted from the implementation.",
          "system = None"]
    | .rest =>
      plain ["#: The root URI leading to the Service-Under-Test.",
        "REST_URI = " ++ Text.quoted h.restRoot] ++
        .blank 1 :: plain ["#: The HTTP client, shared by all tests; keeps cookies between calls.",
          "client: httpx.Client = None"]) ++
    h.factoryField

/-- The lines that set up the factory. -/
def factorySetup (h : Heading) : List String :=
  if h.needsFactory then
    "self.factory = HostFactory()" ::
      (h.record.sourcePackages.filter fun p => !p.isEmpty).map fun p =>
        "self.factory.use_source_package(" ++ Text.quoted p ++ ")"
  else []

def constructor (h : Heading) : List Code :=
  [.block "def __init__(self, method_name=\"runTest\"):"
    (.docstring ["Creates the test driver: " ++ h.driver ++ "."] ::
      plain ("super().__init__(method_name)" :: h.factorySetup))]

def present (field : String) : Code := .statement (.assertPresent field)

/-- The methods that create or reset the system. -/
def setup (h : Heading) : List Code :=
  match h.backend with
  | .inProcess =>
    [.block "def setUp(self):"
      (.docstring ["Creates a fresh instance of the System-Under-Test before each test."] ::
        plain ["self.system = " ++ h.system ++ "()"] ++ [present "system"])]
  | .rpc =>
    plain ["@classmethod"] ++
      [.block "def setUpClass(cls):"
        (.docstring
          ["Creates the zeep client for the service implementation and extracts",
            "the service interface, once for all tests."] ::
          plain ["transport = Transport(session=requests.Session())",
            "cls.implementation = zeep.Client(cls.WSDL_URI, transport=transport)",
            "cls.system = cls.implementation.service"]),
      .blank 1] ++
      plain ["@classmethod"] ++
      [.block "def tearDownClass(cls):" (plain ["cls.implementation.transport.session.close()"]),
      .blank 1,
      .block "def setUp(self):"
        (.docstring ["Resets the state of the service before every test."] ::
          present "implementation" :: present "system" :: plain ["self.system.reset()"])]
  | .rest =>
    plain ["@classmethod"] ++
      [.block "def setUpClass(cls):"
        (.docstring ["Creates the HTTP client, accepting JSON, once for all tests."] ::
          plain ["cls.client = httpx.Client(base_url=cls.REST_URI, " ++
            "headers=\x7b\"Accept\": \"application/json\"\x7d)"]),
      .blank 1] ++
      plain ["@classmethod"] ++
      [.block "def tearDownClass(cls):" (plain ["cls.client.close()"]),
      .blank 1,
      .block "def setUp(self):"
        (.docstring ["Resets the service before every test."] ::
          present "client" :: plain ["self.call_method(\"reset/\")"])]

/-- The method of a path grounding that makes a call. -/
def callHelper : Code :=
  .block "def call_method(self, path):"
    [.docstring
      ["Makes one REST call and returns the JSON response, or None if there",
        "is none. Status inspections use GET; every other call uses POST.",
        "Raises RuntimeError with the status and the response if the status",
        "is outside the 200 series."],
      .block "if \"getState\" in path or \"getScenario\" in path:"
        (plain ["response = self.client.get(path)"]),
      .block "else:" (plain ["response = self.client.post(path)"]),
      .statement (.plain "body = response.text or None"),
      .block "if not response.is_success:"
        (plain ["raise RuntimeError(f\"\x7bresponse.status_code\x7d " ++
          "\x7bresponse.reason_phrase\x7d: \x7bbody\x7d\")"]),
      .statement (.plain "return body")]

/-- A method of a path grounding that asks the service for a report. -/
def reportHelper (name path summary : String) : Code :=
  .block ("def " ++ name ++ "(self):")
    (.docstring [summary] ::
      plain ["return TypeAdapter(str).validate_json(self.call_method(\"" ++ path ++ "\"))"])

/-- The helpers of the test methods. -/
def helpers (h : Heading) : List Code :=
  match h.backend with
  | .inProcess | .rpc => []
  | .rest =>
    [.blank 1, callHelper] ++
      if h.metaCheck then
        [.blank 1,
          reportHelper "get_scenario" "getScenario/"
            "Returns the name of the last scenario executed on the service.",
          .blank 1,
          reportHelper "get_state" "getState/"
            "Returns the name of the last state visited by the service."]
      else []

/-! ### The whole head -/

/-- What precedes the class. -/
def preamble (h : Heading) : List Code := h.banner ++ h.imports ++ [.blank 2]

def classHeader (h : Heading) : String := "class " ++ h.driver ++ "(unittest.TestCase):"

def classHead (h : Heading) : List Code :=
  [.docstring ["Test driver for the system under test: " ++ h.system ++ "."], .blank 1] ++
    h.fields ++ [.blank 1] ++ h.constructor ++ [.blank 1] ++ h.setup ++ h.helpers

end Heading

end Grounding

import Grounding.Document.Reader
import Grounding.Json.Parser
import Grounding.Suite.Basic

/-!
# Suite documents

A suite is stored as a JSON document. Members that have no meaning are ignored, and members that are
left out have a default, apart from names, the state of a step and the text of a notice.
-/

namespace Grounding

open Reader

instance : Document Json where
  shape
    | .null => .null
    | .bool b => .bool b
    | .int n => .int n
    | .float x => .float x
    | .string s => .text s
    | .array items => .items items
    | .object members => .members members

namespace TestSuite

def readParameter : Json → Validated Parameter :=
  record fun ms =>
    Parameter.mk <$> required "name" text ms <*> defaulted "type" text "String" ms <*>
      defaulted "content" (optional text) none ms <*> defaulted "bound" bool true ms

def readOperation : Json → Validated Operation :=
  record fun ms =>
    Operation.mk <$> required "name" text ms <*> defaulted "inputs" (list readParameter) [] ms <*>
      defaulted "outputs" (list readParameter) [] ms <*>
      defaulted "failures" (list readParameter) [] ms

def readStep : Json → Validated TestStep :=
  record fun ms =>
    TestStep.mk <$> required "name" text ms <*> required "state" text ms <*>
      defaulted "verify" bool false ms <*> defaulted "operation" (optional readOperation) none ms

def readSequence : Json → Validated TestSequence :=
  record fun ms =>
    TestSequence.mk <$> defaulted "test" int 0 ms <*> defaulted "state" text "" ms <*>
      defaulted "path" int 0 ms <*> defaulted "steps" (list readStep) [] ms

def readNoticeKind (j : Json) : Validated NoticeKind :=
  match j with
  | .string s =>
    match [NoticeKind.info, .warning].find? fun k => k.name == s with
    | some k => .valid k
    | none => .problem .notChoice
  | _ => .problem .notChoice

def readNotice : Json → Validated Notice :=
  record fun ms =>
    Notice.mk <$> defaulted "kind" readNoticeKind .info ms <*> required "text" text ms

def ofJson : Json → Validated TestSuite :=
  record fun ms =>
    TestSuite.mk <$> required "name" text ms <*> defaulted "grounding" (optional text) none ms <*>
      defaulted "meta_check" bool false ms <*> defaulted "sequences" (list readSequence) [] ms <*>
      defaulted "notices" (list readNotice) [] ms

/-- Reads a suite from the text of a document, in which no number may have too many digits. -/
def parse (document : String) : Validated TestSuite :=
  match Json.parseUnder .numbers document with
  | .ok data => ofJson data
  | .error _ => .problem .badDocument

end TestSuite

end Grounding

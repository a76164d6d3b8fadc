import Grounding.Descriptor.Grammar
import Grounding.Text.Percent
import Grounding.Text.Quoted
import Grounding.Text.Word
import Grounding.Value.Literal

/-!
# Expressions and statements of a driver

The code of a test method is built from a few forms of expression and statement. Each has one text.
-/

namespace Grounding

def commaText (parts : List String) : String := ", ".intercalate parts

/-- The value of a parameter, as a driver writes it. -/
inductive Operand where
  /-- No value. -/
  | absent
  /-- A value that is written out. -/
  | constant (x : Value)
  /-- A value that the driver's factory makes from a literal. -/
  | synthesized (literal : String) (type : Descriptor)

def Operand.text : Operand → String
  | absent => "None"
  | constant x => x.source
  | synthesized literal type =>
    "self.factory.create(" ++ Text.quoted literal ++ ", " ++ Text.quoted (type.render .angle) ++ ")"

inductive Call where
  /-- By a method of the system. -/
  | direct (operation : String) (args : List Operand)
  /-- By a path with a segment for each input, which has the given literal. -/
  | path (operation : String) (literals : List String)

namespace Call

/-- The path of a call: the operation, then each literal as a segment of its own. -/
def pathText (operation : String) (literals : List String) : String :=
  operation ++ "/" ++ String.join (literals.map fun s => Text.percentEncode s ++ "/")

def text : Call → String
  | direct operation args =>
    "self.system." ++ operation ++ "(" ++ commaText (args.map Operand.text) ++ ")"
  | path operation literals =>
    "self.call_method(" ++ Text.quoted (pathText operation literals) ++ ")"

end Call

/-- A variable of a test method; the number is that of its step. -/
inductive Variable where
  | actual (step : Nat)
  | expect (step : Nat)
  | response (step : Nat)
  /-- The receiver of an output with the given name. -/
  | receiver (name : String) (step : Nat)
deriving DecidableEq, Repr

def Variable.text : Variable → String
  | actual step => "actual" ++ toString step
  | expect step => "expect" ++ toString step
  | response step => "response" ++ toString step
  | receiver name step => Text.identifier name ++ toString step

inductive Decoder where
  /-- By the driver's factory. -/
  | factory (type : Descriptor)
  /-- By the annotation of a type. -/
  | adapter (type : Descriptor)
  /-- As a list of values of one type. -/
  | listAdapter (element : Descriptor)

def Decoder.text (response : Variable) : Decoder → String
  | factory type =>
    "self.factory.decode_json(" ++ response.text ++ ", " ++ Text.quoted (type.render .angle) ++ ")"
  | adapter type => "TypeAdapter(" ++ type.hostType ++ ").validate_json(" ++ response.text ++ ")"
  | listAdapter element =>
    "TypeAdapter(list[" ++ element.hostType ++ "]).validate_json(" ++ response.text ++ ")"

inductive Assigned where
  | call (c : Call)
  /-- The items of what a call returns. -/
  | callItems (c : Call)
  | decoded (d : Decoder) (response : Variable)
  | list (operands : List Operand)

def Assigned.text : Assigned → String
  | call c => c.text
  | callItems c => "list(" ++ c.text ++ ")"
  | decoded d response => d.text response
  | list operands => "[" ++ commaText (operands.map Operand.text) ++ "]"

/-- What a system reports on itself. -/
inductive Report where
  | scenario
  | state
deriving DecidableEq, Repr

inductive Statement where
  /-- A fixed line of code. -/
  | plain (text : String)
  | comment (text : String)
  | invoke (c : Call)
  | assign (v : Variable) (type : Option Descriptor) (value : Assigned)
  | assertEqual (expected : Operand) (actual : Variable)
  | assertSequenceEqual (expected actual : Variable)
  | assertNone (v : Variable)
  /-- Asserts that an attribute of the driver is set. -/
  | assertPresent (field : String)
  /-- Asserts that the text of an exception holds the given one. -/
  | assertMessage (text : String)
  /-- Asserts what the system reports, by an expression that asks it. -/
  | assertReport (expected : String) (getter : String)
  | fail (text : String)

def Statement.text : Statement → String
  | plain text => text
  | comment text => "# " ++ text
  | invoke c => c.text
  | assign v type value =>
    v.text ++ (match type with | some d => ": " ++ d.hostType | none => "") ++ " = " ++
      value.text
  | assertEqual expected actual =>
    "self.assertEqual(" ++ expected.text ++ ", " ++ actual.text ++ ")"
  | assertSequenceEqual expected actual =>
    "self.assertSequenceEqual(" ++ expected.text ++ ", " ++ actual.text ++ ")"
  | assertNone v => "self.assertIsNone(" ++ v.text ++ ")"
  | assertPresent field => "self.assertIsNotNone(self." ++ field ++ ")"
  | assertMessage text => "self.assertIn(" ++ Text.quoted text ++ ", str(ex))"
  | assertReport expected getter =>
    "self.assertEqual(" ++ Text.quoted expected ++ ", self." ++ getter ++ "())"
  | fail text => "self.fail(" ++ Text.quoted text ++ ")"

end Grounding

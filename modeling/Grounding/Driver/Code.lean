import Grounding.Driver.Expression
import Grounding.Driver.Layout
import Grounding.Synthesis.Fault

/-!
# Code of a driver

Code is a tree of statements and blocks. While it is built up a value may turn out not to exist; the
code before that place is kept, and so an emission has code and perhaps a fault.
-/

namespace Grounding

inductive Code where
  | statement (s : Statement)
  | blank (count : Nat)
  | docstring (texts : List String)
  | block (header : String) (body : List Code)

namespace Code

mutual

def steps : Code → List Layout.Step
  | statement s => [.line s.text]
  | blank count => [.blank count]
  | docstring texts => [.docstring texts]
  | block header body => .block header :: stepsOfList body ++ [.leave]

/-- The steps that lay out several pieces of code. -/
def stepsOfList : List Code → List Layout.Step
  | [] => []
  | c :: rest => c.steps ++ stepsOfList rest

end

def textAt (depth : Nat) (code : List Code) : String := Layout.run depth (stepsOfList code)

end Code

/-- Code that has been written, and the result or the fault that ended the writing. -/
structure Emission (α : Type) where
  code : List Code
  result : Except Fault α

namespace Emission

/-- Writes nothing. -/
def pure {α : Type} (a : α) : Emission α := ⟨[], .ok a⟩

/-- Goes on after an emission that has not failed. -/
def bind {α β : Type} (e : Emission α) (f : α → Emission β) : Emission β :=
  match e.result with
  | .ok a => ⟨e.code ++ (f a).code, (f a).result⟩
  | .error fault => ⟨e.code, .error fault⟩

instance : Monad Emission where
  pure := Emission.pure
  bind := Emission.bind

def write (code : List Code) : Emission Unit := ⟨code, .ok ()⟩

def statements (ss : List Statement) : Emission Unit := write (ss.map .statement)

def statement (s : Statement) : Emission Unit := statements [s]

/-- Writes a block, as far as its body goes. -/
def block {α : Type} (header : String) (body : Emission α) : Emission α :=
  ⟨[.block header body.code], body.result⟩

/-- Works out a value without writing. -/
def calculate {α : Type} (r : Except Fault α) : Emission α := ⟨[], r⟩

end Emission

end Grounding

/-!
# Validation of documents

A document is checked field by field, and all issues are reported together, in the order of the
fields. An issue has a place: the names and indices that lead to it from the root.
-/

namespace Grounding

/-- A step from a node of a document to a node below it. -/
inductive Branch where
  | member (name : String)
  | item (index : Nat)
deriving DecidableEq, Repr

/-- What is wrong with a node. -/
inductive Problem where
  | missing
  | notText
  | notBool
  | badBool
  | notInt
  | badInt
  | longInt
  | infiniteInt
  | fractionalInt
  | notList
  | notRecord
  | notChoice
  | unknownMember
  | badDocument
deriving DecidableEq, Repr

def Problem.code : Problem → String
  | missing => "missing"
  | notText => "string_type"
  | notBool => "bool_type"
  | badBool => "bool_parsing"
  | notInt => "int_type"
  | badInt => "int_parsing"
  | longInt => "int_parsing_size"
  | infiniteInt => "finite_number"
  | fractionalInt => "int_from_float"
  | notList => "list_type"
  | notRecord => "model_type"
  | notChoice => "enum"
  | unknownMember => "extra_forbidden"
  | badDocument => "json_invalid"

/-- A problem and its place. -/
structure Issue where
  place : List Branch
  problem : Problem
deriving DecidableEq, Repr

/-- Either a value or the issues that stand in its way. -/
inductive Validated (α : Type) where
  | valid (a : α)
  | invalid (issues : List Issue)

namespace Validated

/-- A single issue at the node itself. -/
def problem {α : Type} (p : Problem) : Validated α := invalid [⟨[], p⟩]

/-- Applies a function; the issues of both sides are kept, in order. -/
def ap {α β : Type} : Validated (α → β) → Validated α → Validated β
  | valid f, valid a => valid (f a)
  | valid _, invalid issues => invalid issues
  | invalid issues, valid _ => invalid issues
  | invalid issues, invalid more => invalid (issues ++ more)

instance : Applicative Validated where
  pure := valid
  seq f a := ap f (a ())

/-- Sees the issues from one node further up. -/
def under {α : Type} (b : Branch) : Validated α → Validated α
  | valid a => valid a
  | invalid issues => invalid (issues.map fun i => { i with place := b :: i.place })

/-- Adds issues that are found after all others. -/
def withIssues {α : Type} (more : List Issue) : Validated α → Validated α
  | valid a => if more.isEmpty then valid a else invalid more
  | invalid issues => invalid (issues ++ more)

def toExcept {α : Type} : Validated α → Except (List Issue) α
  | valid a => .ok a
  | invalid issues => .error issues

end Validated

end Grounding

import Grounding.Number.Binary64

/-!
# JSON values

A JSON document as a tree. Integers of any size are kept apart from numbers with a fraction or an
exponent, and the members of an object keep the order in which their names first occurred.
-/

namespace Grounding

inductive Json where
  | null
  | bool (b : Bool)
  | int (n : Int)
  | float (x : Binary64)
  | string (s : String)
  | array (items : List Json)
  | object (members : List (String × Json))

namespace Json

instance : Inhabited Json := ⟨.null⟩

/-- Adds a member; a name that is there already keeps its place and takes the new value. -/
def putMember (name : String) (j : Json) : List (String × Json) → List (String × Json)
  | [] => [(name, j)]
  | (n, i) :: rest => if n == name then (n, j) :: rest else (n, i) :: putMember name j rest

/-- The value of a member of an object. -/
def member? (name : String) : Json → Option Json
  | object members => members.lookup name
  | _ => none

theorem lookup_putMember_self (name : String) (j : Json) (ms : List (String × Json)) :
    (putMember name j ms).lookup name = some j := by
  induction ms with
  | nil => simp [putMember]
  | cons m rest ih =>
    obtain ⟨n, i⟩ := m
    by_cases h : n = name
    · simp [putMember, h]
    · have h' : (name == n) = false := by simpa using fun e => h e.symm
      simp [putMember, h, h', ih, List.lookup_cons]

end Json

end Grounding

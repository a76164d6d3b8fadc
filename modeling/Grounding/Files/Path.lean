/-!
# Paths

A path is a root, which may be missing, and the names below it. Empty names and single points are
dropped, so that a path has one text; two points stay.
-/

namespace Grounding

inductive PathRoot where
  /-- The current directory. -/
  | relative
  | absolute
  /-- A root that is written with two slashes. -/
  | doubled
deriving DecidableEq, Repr

structure Path where
  root : PathRoot
  parts : List String
deriving DecidableEq, Repr

namespace Path

def rootOf : List Char → PathRoot
  | '/' :: '/' :: '/' :: _ => .absolute
  | '/' :: '/' :: _ => .doubled
  | '/' :: _ => .absolute
  | _ => .relative

def ofText (s : String) : Path where
  root := rootOf s.toList
  parts := ((s.toList.splitOn '/').map String.ofList).filter fun p => p != "" && p != "."

def rootText : PathRoot → String
  | .relative => ""
  | .absolute => "/"
  | .doubled => "//"

def text (p : Path) : String :=
  if p.root == .relative && p.parts.isEmpty then "."
  else rootText p.root ++ "/".intercalate p.parts

/-- The second path as seen from the first. -/
def join (p q : Path) : Path :=
  match q.root with
  | .relative => ⟨p.root, p.parts ++ q.parts⟩
  | _ => q

instance : Append Path := ⟨join⟩

/-- A path with one more name, or as far as the name goes as a path of its own. -/
def child (p : Path) (name : String) : Path := p ++ ofText name

def hasNull (p : Path) : Bool := p.parts.any fun name => name.contains '\x00'

def parent (p : Path) : Path := ⟨p.root, p.parts.dropLast⟩

example : (ofText "/o//p/./q/").text = "/o/p/q" := by decide

end Path

end Grounding

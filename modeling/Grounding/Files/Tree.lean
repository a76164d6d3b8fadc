import Grounding.Files.Access

/-!
# File trees

A file tree is a finite map from places to files and directories. A place is the list of the names
that lead to it, so it has no points in it; every directory above an entry is an entry as well.
There are no links in a tree: a place has one entry, and no two places share theirs.
-/

namespace Grounding

/-- A file with its text, or a directory. -/
inductive FileEntry where
  | directory
  | file (text : String)
deriving DecidableEq, Repr

def FileEntry.kind : FileEntry → EntryKind
  | directory => .directory
  | file _ => .file

/-- The place of an entry: the names from the top. -/
abbrev FilePlace := List String

/-- Files and directories by their places, without links. The top is always a directory. -/
structure FileTree where
  entries : List (FilePlace × FileEntry)
  /-- The place where relative paths start. -/
  current : FilePlace := []

namespace FileTree

/-- The tree with nothing but the top. -/
def empty : FileTree := { entries := [] }

def entry? (t : FileTree) (place : FilePlace) : Option FileEntry :=
  if place.isEmpty then some .directory else t.entries.lookup place

def put (place : FilePlace) (e : FileEntry) (t : FileTree) : FileTree :=
  { t with entries := t.entries.filter (fun x => x.1 != place) ++ [(place, e)] }

/-- The place one name further on; two points lead back up. -/
def step (place : FilePlace) (name : String) : FilePlace :=
  if name == ".." then place.dropLast else place ++ [name]

/--
The place that names lead to from another one. Everything but the last must be a directory.
-/
def walk (t : FileTree) (place : FilePlace) : List String → Except FileCause FilePlace
  | [] => .ok place
  | [name] => .ok (step place name)
  | name :: rest =>
    match t.entry? (step place name) with
    | some .directory => walk t (step place name) rest
    | some (.file _) => .error .notDirectory
    | none => .error .noEntry

def start (t : FileTree) (p : Path) : FilePlace :=
  match p.root with
  | .relative => t.current
  | _ => []

def find (t : FileTree) (p : Path) : Except FileCause (FilePlace × Option FileEntry) :=
  if p.hasNull then .error .nullCharacter
  else (t.walk (t.start p) p.parts).map fun place => (place, t.entry? place)

def read (t : FileTree) (p : Path) : Except FileCause String :=
  match t.find p with
  | .ok (_, some (.file text)) => .ok text
  | .ok (_, some .directory) => .error .isDirectory
  | .ok (_, none) => .error .noEntry
  | .error cause => .error cause

def makeDirectory (p : Path) (t : FileTree) : Except FileCause FileTree :=
  match t.find p with
  | .ok (_, some _) => .error .alreadyExists
  | .ok (place, none) => .ok (t.put place .directory)
  | .error cause => .error cause

def write (p : Path) (text : String) (t : FileTree) : Except FileCause FileTree :=
  match t.find p with
  | .ok (_, some .directory) => .error .isDirectory
  | .ok (place, _) => .ok (t.put place (.file text))
  | .error cause => .error cause

def kind? (t : FileTree) (p : Path) : Option EntryKind :=
  match t.find p with
  | .ok (_, some e) => some e.kind
  | _ => none

/-- A change of the tree, or the reason why there is none. -/
def change (p : Path) (f : FileTree → Except FileCause FileTree) :
    StateM FileTree (Except FileError Unit) := do
  match f (← get) with
  | .ok t =>
    set t
    return .ok ()
  | .error cause => return .error ⟨cause, p⟩

instance : FileAccess (StateM FileTree) where
  kind? p := do return (← get).kind? p
  read p := do return ((← get).read p).mapError fun cause => ⟨cause, p⟩
  makeDirectory p := change p (makeDirectory p)
  write p text := change p (write p text)

end FileTree

end Grounding

import Grounding.Synthesis.Decode

/-!
# Values of a host

In a driver an external type is backed by a constructor. It is the one registered under the name of
the type, or else the first one found in the source packages, and it stays the same once an
identifier has been passed to it.
-/

namespace Grounding

/-- What the signature of a constructor says of a call with one identifier. -/
inductive Signature where
  | accepts
  | refuses
  /-- It cannot be inspected. -/
  | hidden
deriving DecidableEq, Repr

/-- A constructor of host values, or some other thing that can be called. -/
structure Constructor where
  /-- The name it goes by. -/
  label : String
  signature : Signature
  /-- The result of a call with an identifier, unless it fails. -/
  ofIdentifier : String → Option Value
  /-- The result of a call with named arguments, unless it fails. -/
  ofMembers : List (String × Json) → Option Value

/-- Whether a constructor is taken for one of identifiers: unless its signature says otherwise. -/
def Constructor.acceptsIdentifier (c : Constructor) : Bool := c.signature != .refuses

/-- What comes of the import of a package. -/
inductive Import where
  /-- A module. A member that is looked up is a constructor or none, or else there is an error. -/
  | module (member : String → Except Fault (Option Constructor))
  /-- The package is reported not to be importable. -/
  | missing
  /-- The code of the package ends with another error, which nothing catches. -/
  | raised (f : Fault)

/-- What a host can import, by the names of packages. -/
structure Library where
  load : String → Import

def Library.constructor? (lib : Library) (package type : String) :
    Except Fault (Option Constructor) :=
  match lib.load package with
  | .module member => member type
  | .missing => .ok none
  | .raised f => .error f

/-- The state of the synthesis in a driver. -/
structure Host where
  /-- Registered constructors, the latest first. -/
  registry : List (String × Constructor)
  /-- The packages to search, without repetition. -/
  packages : List String
  /-- The constructors that types have been resolved to. -/
  resolved : List (String × Constructor)

namespace Host

def empty : Host := ⟨[], [], []⟩

def register (type : String) (c : Constructor) (h : Host) : Host :=
  { h with registry := (type, c) :: h.registry }

/-- Adds a package to search, unless it is there already or has no name. -/
def usePackage (package : String) (h : Host) : Host :=
  if package.isEmpty || h.packages.contains package then h
  else { h with packages := h.packages ++ [package] }

/-- The first constructor of a type in the given packages. -/
def search (lib : Library) (type : String) : List String → Except Fault Constructor
  | [] => .error (.external (.notFound type))
  | package :: rest =>
    if package.toList.head? == some '.' then .error (.mismatch (.relativePackage package))
    else
      match lib.constructor? package type with
      | .ok (some c) => .ok c
      | .ok none => search lib type rest
      | .error f => .error f

/-- The constructor of a type that has not been resolved: a registered one comes first. -/
def locate (lib : Library) (type : String) (h : Host) : Except Fault Constructor :=
  match h.registry.lookup type with
  | some c => .ok c
  | none => search lib type h.packages

end Host

/-- A synthesis in a driver. What has been resolved before a fault stays so. -/
abbrev Hosted := ExceptT Fault (StateM Host)

namespace Host

/-- The constructor that makes values of a type from identifiers. -/
def resolve (lib : Library) (type : String) : Hosted Constructor := do
  let h ← get
  match h.resolved.lookup type with
  | some c => return c
  | none =>
    let c ← Synthesis.checked (h.locate lib type)
    if c.acceptsIdentifier then
      set { h with resolved := (type, c) :: h.resolved }
      return c
    else throw (.external (.noConstructor type))

def ofIdentifier (lib : Library) (type identifier : String) : Hosted Value := do
  let c ← resolve lib type
  match c.ofIdentifier identifier with
  | some x => return x
  | none => throw (.external (.refusedIdentifier type identifier))

/-- Makes a value from the members of a JSON object, which resolves nothing for later. -/
def ofMembers (lib : Library) (type : String) (members : List (String × Json)) :
    Hosted Value := do
  let h ← get
  let c ←
    match h.resolved.lookup type with
    | some c => pure c
    | none => Synthesis.checked (h.locate lib type)
  match c.ofMembers members with
  | some x => return x
  | none => throw (.external (.refusedMembers type members))

/-- The external types of a driver. -/
def externals (lib : Library) : Externals Hosted where
  ofIdentifier := ofIdentifier lib
  ofMembers := ofMembers lib

end Host

end Grounding

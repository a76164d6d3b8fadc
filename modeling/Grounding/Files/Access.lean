import Grounding.Files.Path
import Grounding.Text.Quoted

/-!
# Access to files

The few operations on files that a run needs. They are the same on the file system of the machine
and on a file tree that is kept in memory.
-/

namespace Grounding

/-- What a path leads to. -/
inductive EntryKind where
  | file
  | directory
deriving DecidableEq, Repr

/-- Why an operation on a file fails. -/
inductive FileCause where
  | noEntry
  | alreadyExists
  | notDirectory
  | isDirectory
  /-- The path has a null character, which no file has in its name. -/
  | nullCharacter
deriving DecidableEq, Repr

/-- A failed operation on a file. -/
structure FileError where
  cause : FileCause
  path : Path
deriving DecidableEq, Repr

namespace FileCause

def number? : FileCause → Option Nat
  | noEntry => some 2
  | alreadyExists => some 17
  | notDirectory => some 20
  | isDirectory => some 21
  | nullCharacter => none

def phrase : FileCause → String
  | noEntry => "No such file or directory"
  | alreadyExists => "File exists"
  | notDirectory => "Not a directory"
  | isDirectory => "Is a directory"
  | nullCharacter => "embedded null byte"

end FileCause

/-- The wording of a failed operation. The path is named if the machine has refused it. -/
def FileError.message (e : FileError) : String :=
  match e.cause.number? with
  | some n =>
    "[Errno " ++ toString n ++ "] " ++ e.cause.phrase ++ ": " ++ Text.quoted e.path.text
  | none => e.cause.phrase

/-- The operations on files. -/
class FileAccess (m : Type → Type) where
  /-- What is there, if anything. -/
  kind? : Path → m (Option EntryKind)
  /-- The text of a file. -/
  read : Path → m (Except FileError String)
  /-- Makes a directory in one that is there. -/
  makeDirectory : Path → m (Except FileError Unit)
  /-- Replaces the text of a file, or makes one with the text. -/
  write : Path → String → m (Except FileError Unit)

namespace FileAccess

variable {m : Type → Type} [Monad m] [FileAccess m]

def isDirectory (p : Path) : m Bool := do return (← kind? p) == some .directory

/-- Makes a directory unless it is there. -/
def ensureDirectory (p : Path) : m (Except FileError Unit) := do
  match ← makeDirectory p with
  | .ok () => return .ok ()
  | .error e =>
    if e.cause != .noEntry && (← isDirectory p) then return .ok () else return .error e

/-- Makes a directory and those above it unless they are there; `names` is how many there may be. -/
def ensureDirectories (p : Path) : Nat → m (Except FileError Unit)
  | 0 => ensureDirectory p
  | names + 1 => do
    match ← ensureDirectory p with
    | .ok () => return .ok ()
    | .error e =>
      if e.cause != .noEntry || p.parts.isEmpty then return .error e
      else
        match ← ensureDirectories p.parent names with
        | .ok () => ensureDirectory p
        | .error e => return .error e

end FileAccess

end Grounding

import Grounding.Command.Conclusion
import Std.Time

/-!
# The program

Reads and writes the files of the machine, and prints how the program ends.
-/

namespace Grounding

/-- The cause that the number of an error of the machine stands for. The number may be negated. -/
def FileCause.ofNumber? (n : UInt32) : Option FileCause :=
  [FileCause.noEntry, .alreadyExists, .notDirectory, .isDirectory].find? fun c =>
    c.number? == some n.toInt32.toInt.natAbs

def FileCause.ofMachine? : IO.Error → Option FileCause
  | .noFileOrDirectory .. => some .noEntry
  | .alreadyExists .. => some .alreadyExists
  | .inappropriateType _ n _ | .resourceExhausted _ n _ | .otherError n _ => ofNumber? n
  | _ => none

/-- An operation of the machine on a file. Errors of other kinds end the program. -/
def attempt {α : Type} (p : Path) (action : IO α) : IO (Except FileError α) := do
  if p.hasNull then return .error ⟨.nullCharacter, p⟩
  try
    return .ok (← action)
  catch e =>
    match FileCause.ofMachine? e with
    | some cause => return .error ⟨cause, p⟩
    | none => throw e

instance : FileAccess IO where
  kind? p := do
    match ← attempt p (IO.FS.readFile p.text) with
    | .ok _ => return some .file
    | .error e => return if e.cause == .isDirectory then some .directory else none
  read p := attempt p (IO.FS.readFile p.text)
  makeDirectory p := attempt p (IO.FS.createDir p.text)
  write p text := attempt p (IO.FS.writeFile p.text text)

/-- The present moment on the clock of the machine. -/
def Moment.now : IO Moment := do
  let t ← Std.Time.PlainDateTime.now
  return {
    year := t.date.year.toInt.toNat
    month := t.date.month.toNat
    day := t.date.day.toNat
    hour := t.time.hour.toNat
    minute := t.time.minute.toNat
    second := t.time.second.toNat }

/-- The width of a terminal that does not tell it. -/
def defaultWidth : Nat := 80

end Grounding

open Grounding in
/-- Runs a command in the current directory. -/
def main (words : List String) : IO UInt32 := do
  let root := Path.ofText (← IO.FS.realPath ".").toString
  let conclusion : Conclusion ← runProgram root (← Moment.now) words
  let terminal := ((← IO.getEnv "COLUMNS").bind String.toNat?).getD defaultWidth
  for line in conclusion.log ++ conclusion.report do
    IO.eprintln line
  for line in conclusion.output terminal do
    IO.println line
  return conclusion.exitCode.toUInt32

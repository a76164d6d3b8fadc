import Grounding.Command.Perform

/-!
# Running the program

The program reads its command line, performs the command and ends with an exit code: zero for
success, one for an error of the command, and two for a command line that cannot be read.
-/

namespace Grounding

inductive Ending where
  /-- It displays something. -/
  | success (d : Display)
  /-- Its command fails. -/
  | failure (e : CommandError)
  /-- It cannot read its command line. -/
  | usage (e : Command.UsageError)

/-- How the program ends, and what it wrote to its log. -/
structure Conclusion where
  ending : Ending
  log : List String := []

namespace Conclusion

def exitCode (c : Conclusion) : Nat :=
  match c.ending with
  | .success _ => 0
  | .failure _ => 1
  | .usage _ => 2

/-- The lines that are displayed on a terminal of some width. -/
def output (terminal : Nat) (c : Conclusion) : List String :=
  match c.ending with
  | .success d => d.render terminal
  | _ => []

/-- The report of an error. Only errors in what the program was given are marked as such. -/
def report (c : Conclusion) : List String :=
  match c.ending with
  | .success _ => []
  | .failure e => [(if e.isReported then "Error: " else "Fault: ") ++ e.message]
  | .usage .missingCommand => Command.programHelp
  | .usage e => [Command.programUsage, "", "Error: " ++ e.message]

/-- The end of a command with its log. -/
def ofResult : Except CommandError Display × List String → Conclusion
  | (.ok d, log) => ⟨.success d, log⟩
  | (.error e, log) => ⟨.failure e, log⟩

end Conclusion

def runProgram {m : Type → Type} [Monad m] [FileAccess m] (root : Path) (now : Moment)
    (words : List String) : m Conclusion :=
  match Command.parse words with
  | .error e => return { ending := .usage e }
  | .ok c => do return .ofResult (← ((c.perform root now).run).run [])

end Grounding

import Grounding.Command.Basic

/-!
# Help

How the program and its commands are used. The options are listed as they are read.
-/

namespace Grounding

def programName : String := "specground"

namespace Command

def optionLines {α : Type} (options : List (CommandOption α)) : List String :=
  options.map fun o => "  " ++ ", ".intercalate o.names ++ "  " ++ o.description

def optionsOf : CommandName → List String
  | .ground => optionLines groundOptions
  | .analyse => optionLines analyseOptions
  | .groundings => optionLines groundingsOptions

/-- The line that says how a command is called. -/
def commandUsage (name : CommandName) : String :=
  let argument := if name == .groundings then "" else " " ++ suiteArgument
  "Usage: " ++ programName ++ " " ++ name.word ++ " [OPTIONS]" ++ argument

def commandHelp (name : CommandName) : List String :=
  [commandUsage name, "", name.description, "", "Options:"] ++ optionsOf name

/-- The line that says how the program is called. -/
def programUsage : String := "Usage: " ++ programName ++ " [OPTIONS] COMMAND [ARGS]..."

def programHelp : List String :=
  [programUsage, "", "Ground abstract state-machine test suites into executable test drivers", "",
    "Options:"] ++ optionLines programOptions ++ ["", "Commands:"] ++
  CommandName.all.map fun c => "  " ++ c.word ++ "  " ++ c.description

end Command

end Grounding

/-!
# Words of a command line

Options start with a hyphen. A long one has two hyphens and a name, and its value is the text behind
an equals sign or the next word. Short ones are single letters that may share a hyphen; what follows
the letter of an option with a value is the value. Two hyphens alone end the options. All other
words are arguments.
-/

namespace Grounding.Command

/-- What is asked for instead of the work of a command. -/
inductive Request where
  | help
  | version
deriving DecidableEq, Repr

inductive OptionEffect (α : Type) where
  | flag (set : α → α)
  | value (set : String → α → α)
  /-- The first request counts, once all words have proved to be well-formed. -/
  | request (r : Request)

/-- An option that sets a part of `α`. -/
structure CommandOption (α : Type) where
  /-- The names, with their hyphens. -/
  names : List String
  effect : OptionEffect α
  description : String

/-- Why a command line cannot be read. -/
inductive UsageError where
  | noSuchOption (name : String)
  | missingValue (name : String)
  | unexpectedValue (name : String)
  | missingArgument (name : String)
  | extraArguments (words : List String)
  | missingCommand
  | noSuchCommand (name : String)
deriving DecidableEq, Repr

def UsageError.message : UsageError → String
  | noSuchOption name => "No such option: " ++ name
  | missingValue name => "Option '" ++ name ++ "' requires an argument."
  | unexpectedValue name => "Option '" ++ name ++ "' does not take a value."
  | missingArgument name => "Missing argument '" ++ name ++ "'."
  | extraArguments words =>
    (if words.length == 1 then "Got unexpected extra argument ("
      else "Got unexpected extra arguments (") ++ " ".intercalate words ++ ")"
  | missingCommand => "Missing command."
  | noSuchCommand name => "No such command '" ++ name ++ "'."

/-- What the words have told so far. -/
structure Reading (α : Type) where
  value : α
  request : Option Request := none
  arguments : List String := []

namespace Reading

variable {α : Type}

def change (f : α → α) (r : Reading α) : Reading α := { r with value := f r.value }

/-- Adds a request, unless there is one. -/
def ask (q : Request) (r : Reading α) : Reading α := { r with request := r.request.or (some q) }

def add (words : List String) (r : Reading α) : Reading α :=
  { r with arguments := r.arguments ++ words }

end Reading

/-- What a word with options leads to. -/
inductive Taken (α : Type) where
  | complete (r : Reading α)
  /-- The next word is the value of an option. -/
  | awaits (name : String) (set : String → α → α) (r : Reading α)

variable {α : Type}

def effect? (options : List (CommandOption α)) (name : String) : Option (OptionEffect α) :=
  (options.find? fun o => o.names.contains name).map CommandOption.effect

def readLetters (options : List (CommandOption α)) :
    List Char → Reading α → Except UsageError (Taken α)
  | [], r => .ok (.complete r)
  | c :: rest, r =>
    let name := String.ofList ['-', c]
    match effect? options name with
    | none => .error (.noSuchOption name)
    | some (.flag set) => readLetters options rest (r.change set)
    | some (.request q) => readLetters options rest (r.ask q)
    | some (.value set) =>
      if rest.isEmpty then .ok (.awaits name set r)
      else .ok (.complete (r.change (set (String.ofList rest))))

def readLong (options : List (CommandOption α)) (name : String) (value? : Option String)
    (r : Reading α) : Except UsageError (Taken α) :=
  match effect? options name, value? with
  | none, _ => .error (.noSuchOption name)
  | some (.value set), some v => .ok (.complete (r.change (set v)))
  | some (.value set), none => .ok (.awaits name set r)
  | some _, some _ => .error (.unexpectedValue name)
  | some (.flag set), none => .ok (.complete (r.change set))
  | some (.request q), none => .ok (.complete (r.ask q))

/-- Splits a text at the first equals sign. -/
def splitValue (s : List Char) : List Char × Option (List Char) :=
  match s.span (· != '=') with
  | (name, _ :: value) => (name, some value)
  | (name, []) => (name, none)

def readOption (options : List (CommandOption α)) (word : String) (r : Reading α) :
    Except UsageError (Taken α) :=
  match word.toList with
  | '-' :: '-' :: rest =>
    let (name, value?) := splitValue ('-' :: '-' :: rest)
    readLong options (String.ofList name) (value?.map String.ofList) r
  | letters => readLetters options letters.tail r

def hasOptions (word : String) : Bool := word.startsWith "-" && word != "-"

/--
Reads words. Options may stand behind arguments if these are `interspersed`; otherwise the first
argument ends the options.
-/
def readWords (options : List (CommandOption α)) ( interspersed : Bool) :
    List String → Reading α → Except UsageError (Reading α)
  | [], r => .ok r
  | word :: rest, r =>
    if word == "--" then .ok (r.add rest)
    else if hasOptions word then
      match readOption options word r with
      | .error e => .error e
      | .ok (.complete r) => readWords options interspersed rest r
      | .ok (.awaits name set r) =>
        match rest with
        | [] => .error (.missingValue name)
        | value :: others => readWords options interspersed others (r.change (set value))
    else if interspersed then readWords options interspersed rest (r.add [word])
    else .ok (r.add (word :: rest))

end Grounding.Command

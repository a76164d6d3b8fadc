import Grounding.Markup.Argument.Token

/-!
# Arguments

The arguments of a handler have to be a literal: numbers, texts, truth values, and tuples, sets and
maps of literals. An expression of another kind is refused, and so is a text that is no expression.
-/

namespace Grounding.Markup.Argument

inductive Evaluation where
  /-- A literal; if it cannot be a member of a set, its type is given. -/
  | literal (unhashable : Option String)
  /-- A set or map with a member of a type that none can have. -/
  | unhashable (type : String)
  /-- An expression that is no literal. -/
  | foreign
deriving DecidableEq, Repr

/-- The kinds of expressions in front of an equals sign. -/
inductive Form where
  | name
  | constant
  | literal
  | number (isImaginary : Bool)
  | call
  | member
  | tuple
  | set
  | dictionary
  | operation
deriving DecidableEq, Repr

structure Expression where
  form : Form
  value : Evaluation
deriving DecidableEq, Repr

/-- Why tokens are no expression. -/
inductive Stop where
  /-- There are too few of them. -/
  | atEnd
  /-- One of them does not belong there. -/
  | unexpected
  | missingComma
  | missingColon
  | missingItem
  | mixedStrings
  /-- An expression in parentheses has stars in front of it, two of them or one. -/
  | starred (isDouble : Bool)
  | starAlone
  | assignment (form : Form)
deriving DecidableEq, Repr

/-- How an expression is called that cannot be assigned to. -/
def Form.title : Form → String
  | literal | number _ | constant => "literal"
  | call => "function call"
  | member => "attribute"
  | set => "set display"
  | dictionary => "dict literal"
  | tuple => "tuple"
  | name => "name"
  | operation => "expression"

/-- The general wording for a text that is no expression. -/
def syntaxMessage : String := "invalid syntax"

/-- The wording of an error in tokens with the given ending. -/
def Stop.message (ending : Ending) : Stop → String
  | atEnd =>
    match ending with
    | .text [] => syntaxMessage
    | .text (c :: _) => "'" ++ String.singleton c ++ "' was never closed"
    | .backslash => "unexpected character after line continuation character"
  | unexpected => syntaxMessage
  | missingComma => syntaxMessage ++ ". Perhaps you forgot a comma?"
  | missingColon => "':' expected after dictionary key"
  | missingItem => "expression expected after dictionary key and ':'"
  | mixedStrings => "cannot mix bytes and nonbytes literals"
  | starred true => "cannot use double starred expression here"
  | starred false => "cannot use starred expression here"
  | starAlone => "Invalid star expression"
  | assignment .name => syntaxMessage ++ ". Maybe you meant '==' or ':=' instead of '='?"
  | assignment form =>
    "cannot assign to " ++ form.title ++ " here. Maybe you meant '==' instead of '='?"

/-! ### Values -/

/-- The value of a container with the given items, the first of which decides that is no literal. -/
def gather (ofUnhashable : String → Evaluation) (whole : Evaluation) : List Expression → Evaluation
  | [] => whole
  | e :: rest =>
    match e.value with
    | .literal none => gather ofUnhashable whole rest
    | .literal (some type) =>
      match gather ofUnhashable whole rest with
      | .literal _ => ofUnhashable type
      | value => value
    | value => value

def tupleOf (items : List Expression) : Expression :=
  ⟨.tuple, gather (fun type => .literal (some type)) (.literal none) items⟩

def setOf (items : List Expression) : Expression :=
  ⟨.set, gather .unhashable (.literal (some "set")) items⟩

/-- A map with keys and items. -/
def dictionaryOf (entries : List (Expression × Expression)) : Expression :=
  let keys := gather .unhashable (.literal (some "dict")) (entries.map Prod.fst)
  let items := gather (fun _ => keys) keys (entries.map Prod.snd)
  ⟨.dictionary, if keys == .foreign then keys else items⟩

/-- A sign in front of an operand. -/
def signed (sign : String) (e : Expression) : Expression :=
  match e.form with
  | .number i => if sign == "+" || sign == "-" then ⟨.number i, e.value⟩ else ⟨.operation, .foreign⟩
  | _ => ⟨.operation, .foreign⟩

def combined (operator : String) (a b : Expression) : Expression :=
  match a.form, b.form with
  | .number false, .number true =>
    ⟨.operation, if operator == "+" || operator == "-" then .literal none else .foreign⟩
  | _, _ => ⟨.operation, .foreign⟩

/-! ### Expressions -/

/-- The operators in front of an operand. -/
def signs : List String := ["+", "-", "~", "not"]

def operators : List String :=
  ["+", "-", "*", "/", "//", "%", "@", "**", "<<", ">>", "&", "|", "^", "<", ">", "<=", ">=", "==",
    "!=", "and", "or", "in", "is"]

def reservedWords : List String :=
  ["and", "as", "assert", "async", "await", "break", "class", "continue", "def", "del", "elif",
    "else", "except", "finally", "for", "from", "global", "if", "import", "in", "is", "lambda",
    "nonlocal", "not", "or", "pass", "raise", "return", "try", "while", "with", "yield"]

/-- Names that are reserved words in some places. -/
def softWords : List String := ["_", "case", "match"]

/-- The word of a name or an operator. -/
def Token.word : Token → String
  | name s | operator s => s
  | _ => ""

/-- Whether a comma seems to be missing between two expressions that start with the given tokens. -/
def mayMissComma (first : Option Token) (e : Expression) (next : Token) : Bool :=
  match first with
  | some (.name s) =>
    !softWords.contains s && !(e.form == .name && (next == .string || next == .bytes))
  | _ => true

def readStrings (isBytes : Bool) : List Token → Except Stop (List Token)
  | .string :: rest => if isBytes then .error .mixedStrings else readStrings isBytes rest
  | .bytes :: rest => if isBytes then readStrings isBytes rest else .error .mixedStrings
  | rest => .ok rest

mutual

/-- Reads an expression. The number of tokens bounds the depth; each call takes less fuel. -/
def readExpression : Nat → List Token → Except Stop (Expression × List Token)
  | 0, _ => .error .unexpected
  | _ + 1, [] => .error .atEnd
  | fuel + 1, token :: rest => do
    let (first, rest) ←
      if signs.contains token.word then
        let (e, rest) ← readOperand fuel rest
        pure (signed token.word e, rest)
      else readOperand fuel (token :: rest)
    readOperations fuel first rest

def readOperations : Nat → Expression → List Token → Except Stop (Expression × List Token)
  | 0, e, rest => .ok (e, rest)
  | _ + 1, e, [] => .ok (e, [])
  | fuel + 1, e, token :: rest =>
    let isNotIn := token.word == "not" && rest.head? == some (.name "in")
    if operators.contains token.word || isNotIn then
      let rest :=
        if isNotIn || (token.word == "is" && rest.head? == some (.name "not")) then rest.drop 1
        else rest
      do
        let (b, rest) ← readOperand fuel rest
        readOperations fuel (combined token.word e b) rest
    else .ok (e, token :: rest)

/-- Reads an operand: a name, a literal or a bracket, with calls and members of it. -/
def readOperand : Nat → List Token → Except Stop (Expression × List Token)
  | 0, _ => .error .unexpected
  | _ + 1, [] => .error .atEnd
  | fuel + 1, token :: rest =>
    match token with
    | .number i => readTrailers fuel ⟨.number i, .literal none⟩ rest
    | .string => do readTrailers fuel ⟨.literal, .literal none⟩ (← readStrings false rest)
    | .bytes => do readTrailers fuel ⟨.literal, .literal none⟩ (← readStrings true rest)
    | .name s =>
      if s == "True" || s == "False" || s == "None" then
        readTrailers fuel ⟨.constant, .literal none⟩ rest
      else if signs.contains s then do
        let (e, rest) ← readOperand fuel rest
        return (⟨.operation, (signed s e).value⟩, rest)
      else if reservedWords.contains s then .error .unexpected
      else
        match s, rest with
        | "set", .operator "(" :: .operator ")" :: rest =>
          readTrailers fuel ⟨.call, .literal (some "set")⟩ rest
        | _, _ => readTrailers fuel ⟨.name, .foreign⟩ rest
    | .operator "..." => readTrailers fuel ⟨.literal, .literal none⟩ rest
    | .operator "(" =>
      match rest with
      | .operator ")" :: rest => readTrailers fuel (tupleOf []) rest
      | .operator "*" :: rest => readStarred fuel "*" rest
      | .operator "**" :: rest => readStarred fuel "**" rest
      | rest => do
        let (items, isTuple, rest) ← readItems fuel ")" rest
        let e :=
          match items, isTuple with
          | [e], false => e
          | _, _ => tupleOf items
        readTrailers fuel e rest
    | .operator "\x7b" =>
      match rest with
      | .operator "\x7d" :: rest => readTrailers fuel (dictionaryOf []) rest
      | rest => do
        let (_, afterFirst) ← readExpression fuel rest
        if afterFirst.head? == some (.operator ":") then
          let (entries, rest) ← readEntries fuel true rest
          readTrailers fuel (dictionaryOf entries) rest
        else
          let (items, _, rest) ← readItems fuel "\x7d" rest
          readTrailers fuel (setOf items) rest
    | .operator s =>
      if signs.contains s then do
        let (e, rest) ← readOperand fuel rest
        return (⟨.operation, (signed s e).value⟩, rest)
      else .error .unexpected

/-- Reads calls and members of an operand. -/
def readTrailers : Nat → Expression → List Token → Except Stop (Expression × List Token)
  | 0, e, rest => .ok (e, rest)
  | fuel + 1, e, rest =>
    match rest with
    | .operator "." :: .name s :: others =>
      if reservedWords.contains s then .ok (e, rest)
      else readTrailers fuel ⟨.member, .foreign⟩ others
    | [.operator "."] => .error .atEnd
    | .operator "(" :: .operator ")" :: rest => readTrailers fuel ⟨.call, .foreign⟩ rest
    | .operator "(" :: rest => do
      let (_, _, rest) ← readItems fuel ")" rest
      readTrailers fuel ⟨.call, .foreign⟩ rest
    | rest => .ok (e, rest)

/-- Reads the items before a closing bracket, and whether there is a comma among them. -/
def readItems : Nat → String → List Token → Except Stop (List Expression × Bool × List Token)
  | 0, _, _ => .error .unexpected
  | fuel + 1, closing, tokens => do
    let (e, rest) ← readExpression fuel tokens
    match rest with
    | [] => .error .atEnd
    | .operator "," :: .operator s :: rest =>
      if s == closing then return ([e], true, rest)
      else
        let (items, _, rest) ← readItems fuel closing (.operator s :: rest)
        return (e :: items, true, rest)
    | .operator "," :: rest =>
      let (items, _, rest) ← readItems fuel closing rest
      return (e :: items, true, rest)
    | .operator "=" :: rest =>
      match readExpression fuel rest with
      | .ok (_, []) => .error .atEnd
      | .ok (_, next :: _) =>
        if next.word == "=" || next.word == ":=" || e.form == .tuple || e.form == .constant then
          .error .unexpected
        else .error (.assignment e.form)
      | .error stop => .error stop
    | next :: rest =>
      if next == .operator closing then return ([e], false, rest)
      else readMissing fuel tokens.head? e (next :: rest)

/-- Finds out what is wrong after an expression that should be followed by a comma or a bracket. -/
def readMissing {α : Type} : Nat → Option Token → Expression → List Token → Except Stop α
  | 0, _, _, _ => .error .unexpected
  | _ + 1, _, _, [] => .error .atEnd
  | fuel + 1, first, e, next :: rest =>
    match readExpression fuel (next :: rest) with
    | .ok (_, []) | .error .atEnd => .error .atEnd
    | .ok _ => .error (if mayMissComma first e next then .missingComma else .unexpected)
    | .error .unexpected => do
      let _ ← readOperand fuel (next :: rest)
      .error (if mayMissComma first e next then .missingComma else .unexpected)
    | .error stop => .error stop

/-- Finds out what is wrong with a star in front of an expression in parentheses. -/
def readStarred {α : Type} : Nat → String → List Token → Except Stop α
  | 0, _, _ => .error .unexpected
  | fuel + 1, star, tokens =>
    match readExpression fuel tokens with
    | .ok (_, .operator ")" :: _) => .error (.starred (star == "**"))
    | .ok (_, []) | .error .atEnd => .error .atEnd
    | .ok _ => .error .unexpected
    | .error .unexpected => .error (if star == "**" then .unexpected else .starAlone)
    | .error stop => .error stop

/-- Reads the entries of a map up to its closing bracket. -/
def readEntries :
    Nat → Bool → List Token → Except Stop (List (Expression × Expression) × List Token)
  | 0, _, _ => .error .unexpected
  | fuel + 1, isFirst, tokens => do
    let (key, rest) ← readExpression fuel tokens
    match rest with
    | [] => .error .atEnd
    | .operator ":" :: .operator s :: rest =>
      if s == "," || s == "\x7d" then .error .missingItem
      else readEntryItem fuel key (.operator s :: rest)
    | .operator ":" :: rest => readEntryItem fuel key rest
    | _ => .error (if isFirst then .unexpected else .missingColon)

def readEntryItem :
    Nat → Expression → List Token → Except Stop (List (Expression × Expression) × List Token)
  | 0, _, _ => .error .unexpected
  | fuel + 1, key, tokens => do
    let (item, rest) ← readExpression fuel tokens
    match rest with
    | [] => .error .atEnd
    | .operator "\x7d" :: rest => return ([(key, item)], rest)
    | .operator "," :: .operator "\x7d" :: rest => return ([(key, item)], rest)
    | .operator "," :: rest =>
      let (entries, rest) ← readEntries fuel false rest
      return ((key, item) :: entries, rest)
    | rest => readMissing fuel tokens.head? item rest

end

/-- Why a text is no literal. -/
inductive Refusal where
  /-- It is no expression, for a reason that is given in words. -/
  | noExpression (reason : String)
  /-- It has a set or map with a member of a type that none can have. -/
  | unhashable (type : String)
  /-- It is an expression of another kind. -/
  | foreign
deriving DecidableEq, Repr

/-- Reads the items of a text. Two of them stand for a tuple, and so does one with a comma. -/
def readAll (fuel : Nat) : List Expression → List Token → Except Stop Expression
  | before, tokens =>
    match fuel with
    | 0 => .error .unexpected
    | fuel + 1 => do
      let (e, rest) ← readExpression (4 * tokens.length + 4) tokens
      match rest with
      | [] => return if before.isEmpty then e else tupleOf (before ++ [e])
      | [.operator ","] => return tupleOf (before ++ [e])
      | .operator "," :: rest => readAll fuel (before ++ [e]) rest
      | rest =>
        match readMissing (4 * tokens.length + 4) tokens.head? e rest with
        | .error .missingComma => .error .unexpected
        | result => result

/-- Reads a text that has to be a literal. -/
def check (s : List Char) : Except Refusal Unit :=
  match tokens s with
  | .error e => .error (.noExpression e.message)
  | .ok (tokens, ending) =>
    match readAll (tokens.length + 1) [] tokens with
    | .error stop => .error (.noExpression (stop.message ending))
    | .ok e =>
      match ending, e.value with
      | .backslash, _ => .error (.noExpression (Stop.atEnd.message ending))
      | _, .literal _ => .ok ()
      | _, .unhashable type => .error (.unhashable type)
      | _, .foreign => .error .foreign

end Grounding.Markup.Argument

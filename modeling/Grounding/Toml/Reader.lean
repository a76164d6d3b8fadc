import Grounding.Toml.Lexical

/-!
# Reading TOML

The values with values in them, and the document: a sequence of lines, each of which sets a member,
opens a table or appends a table to an array. What has been closed cannot be opened again.
-/

namespace Grounding.Toml

/-! ### Members -/

/-- Sets a member of a table; a name that is there already keeps its place. -/
def putMember (name : String) (x : Toml) : List (String × Toml) → List (String × Toml)
  | [] => [(name, x)]
  | (n, y) :: rest => if n == name then (n, x) :: rest else (n, y) :: putMember name x rest

/-- Changes the last table of an array. -/
def updateLast (f : List (String × Toml) → Except Error (List (String × Toml)))
    (items : List Toml) : Except Error (List Toml) :=
  match items.getLast? with
  | some (.table ms) => do return items.dropLast ++ [.table (← f ms)]
  | _ => malformed

/--
Changes the table that a key leads to, and makes the tables on the way that are missing. With
`throughArrays`, an array on the way stands for its last table.
-/
def updateAt (throughArrays : Bool)
    (f : List (String × Toml) → Except Error (List (String × Toml))) :
    Key → List (String × Toml) → Except Error (List (String × Toml))
  | [], ms => f ms
  | k :: rest, ms => do
    let changed ←
      match ms.lookup k with
      | none => do pure (.table (← updateAt throughArrays f rest []))
      | some (.table sub) => do pure (.table (← updateAt throughArrays f rest sub))
      | some (.array items) =>
        if throughArrays then do
          pure (.array (← updateLast (updateAt throughArrays f rest) items))
        else malformed
      | some _ => malformed
    return putMember k changed ms

def addMember (name : String) (x : Toml) (ms : List (String × Toml)) :
    Except Error (List (String × Toml)) :=
  if (ms.lookup name).isSome then malformed else .ok (ms ++ [(name, x)])

/-- The last part of a key, and those before it. -/
def splitKey (k : Key) : Key × String := (k.dropLast, k.getLast?.getD "")

/-- Whether a value is an array or a table. -/
def isComposite : Toml → Bool
  | array _ | table _ => true
  | _ => false

/-! ### Values -/

/-- Reads a value that has no values in it. -/
def readScalar (s : List Char) : Except Error (Toml × List Char) :=
  match readString? s with
  | some r => r.map fun (t, rest) => (.string (String.ofList t), rest)
  | none =>
    if "true".toList.isPrefixOf s then .ok (.bool true, s.drop 4)
    else if "false".toList.isPrefixOf s then .ok (.bool false, s.drop 5)
    else
      match readDate? s, readTime? s with
      | some r, _ => r
      | none, some r => .ok r
      | none, none =>
        match readBased? s, readDecimal? s, readSpecial? s with
        | some r, _, _ => .ok r
        | none, some r, _ => r
        | none, none, some r => .ok r
        | none, none, none => malformed

mutual

/-- Reads a value; the fuel bounds its depth and the number of its items. -/
def readValue : Nat → List Char → Except Error (Toml × List Char)
  | 0, _ => malformed
  | fuel + 1, s =>
    match s with
    | '[' :: rest => do
      match ← skipGaps fuel rest with
      | ']' :: rest => .ok (.array [], rest)
      | rest => (readItems fuel rest).map fun (items, r) => (.array items, r)
    | '\x7b' :: rest =>
      match skipBlanks rest with
      | '\x7d' :: rest => .ok (.table [], rest)
      | rest => (readPairs fuel [] [] rest).map fun (members, r) => (.table members, r)
    | _ => readScalar s

/-- Reads the items of an array up to its closing bracket; a comma may precede that. -/
def readItems : Nat → List Char → Except Error (List Toml × List Char)
  | 0, _ => malformed
  | fuel + 1, s => do
    let (item, rest) ← readValue fuel s
    match ← skipGaps fuel rest with
    | ']' :: rest => .ok ([item], rest)
    | ',' :: rest =>
      match ← skipGaps fuel rest with
      | ']' :: rest => .ok ([item], rest)
      | rest => (readItems fuel rest).map fun (items, r) => (item :: items, r)
    | _ => malformed

/--
Reads the pairs of an inline table after those in `before`, up to its closing brace. Arrays and
tables at the keys in `closed` take no more members.
-/
def readPairs : Nat → List Key → List (String × Toml) → List Char →
    Except Error (List (String × Toml) × List Char)
  | 0, _, _, _ => malformed
  | fuel + 1, closed, before, s => do
    let (key, rest) ← readKey fuel s
    match rest with
    | '=' :: rest =>
      let (x, rest) ← readValue fuel (skipBlanks rest)
      if closed.any fun k => k.isPrefixOf key then malformed
      else
        let (path, name) := splitKey key
        let members ← updateAt false (addMember name x) path before
        let closed := if isComposite x then key :: closed else closed
        match skipBlanks rest with
        | '\x7d' :: rest => .ok (members, rest)
        | ',' :: rest => readPairs fuel closed members (skipBlanks rest)
        | _ => malformed
    | _ => malformed

end

/-! ### Documents -/

structure State where
  members : List (String × Toml)
  /-- The table that members are set in. -/
  header : Key
  /-- Keys of inline arrays and tables, which are closed for good. -/
  frozen : List Key
  /-- Keys of tables that no header may open again. -/
  opened : List Key
  /-- Keys that join `opened` at the next header. -/
  pending : List Key

namespace State

def initial : State := ⟨[], [], [], [], []⟩

/-- Whether a key leads into an inline array or table. -/
def isFrozen (st : State) (k : Key) : Bool := st.frozen.any fun f => f.isPrefixOf k

def isOpened (st : State) (k : Key) : Bool := st.opened.contains k

/-- Marks the tables of dotted keys at the end of their section. -/
def settle (st : State) : State := { st with opened := st.pending ++ st.opened, pending := [] }

/-- Sets the member at a dotted key. -/
def assign (k : Key) (x : Toml) (st : State) : Except Error State := do
  let (path, name) := splitKey k
  let containers := (List.range path.length).map fun i => st.header ++ path.take (i + 1)
  if containers.any st.isOpened || st.isFrozen (st.header ++ path) then malformed
  else
    return { st with
      members := ← updateAt true (addMember name x) (st.header ++ path) st.members
      frozen := if isComposite x then (st.header ++ k) :: st.frozen else st.frozen
      pending := containers ++ st.pending }

def openTable (k : Key) (st : State) : Except Error State := do
  if st.isOpened k || st.isFrozen k then malformed
  else
    return { st with
      members := ← updateAt true .ok k st.members
      header := k
      opened := k :: st.opened }

/-- Appends a table to an array, which starts with it if it is not there yet. -/
def appendTable (name : String) (ms : List (String × Toml)) :
    Except Error (List (String × Toml)) :=
  match ms.lookup name with
  | none => .ok (ms ++ [(name, .array [.table []])])
  | some (.array items) => .ok (putMember name (.array (items ++ [.table []])) ms)
  | some _ => malformed

/-- Opens a new table of the array at a key; the tables below that key are free again. -/
def openItem (k : Key) (st : State) : Except Error State := do
  if st.isFrozen k then malformed
  else
    let (path, name) := splitKey k
    return { st with
      members := ← updateAt true (appendTable name) path st.members
      header := k
      frozen := st.frozen.filter fun f => !k.isPrefixOf f
      opened := k :: st.opened.filter fun o => !k.isPrefixOf o }

end State

/-- Reads a line that has something else than blanks and comments on it. -/
def readLine (st : State) (s : List Char) : Except Error (State × List Char) :=
  match s with
  | '[' :: '[' :: rest => do
    let (k, rest) ← readKey rest.length (skipBlanks rest)
    match rest with
    | ']' :: ']' :: rest => return (← st.settle.openItem k, rest)
    | _ => malformed
  | '[' :: rest => do
    let (k, rest) ← readKey rest.length (skipBlanks rest)
    match rest with
    | ']' :: rest => return (← st.settle.openTable k, rest)
    | _ => malformed
  | _ => do
    let (k, rest) ← readKey s.length s
    match rest with
    | '=' :: rest =>
      let (x, rest) ← readValue (2 * rest.length + 2) (skipBlanks rest)
      return (← st.assign k x, rest)
    | _ => malformed

/-- Reads the lines of a document, at most so many. -/
def readLines : Nat → State → List Char → Except Error State
  | 0, st, _ => .ok st
  | fuel + 1, st, s => do
    let (st, rest) ←
      match skipBlanks s with
      | [] => .ok (st, [])
      | '\n' :: rest => .ok (st, '\n' :: rest)
      | '#' :: rest => .ok (st, '#' :: rest)
      | rest => readLine st rest
    match ← skipComment (skipBlanks rest) with
    | [] => return st
    | '\n' :: rest => readLines fuel st rest
    | _ => malformed

/-- A text with all line ends written alike. -/
def normalizeLineEnds : List Char → List Char
  | '\r' :: '\n' :: rest => '\n' :: normalizeLineEnds rest
  | c :: rest => c :: normalizeLineEnds rest
  | [] => []

/-- Reads a document: the members of its table. -/
def parse (document : String) : Except Error (List (String × Toml)) := do
  let s := normalizeLineEnds document.toList
  return (← readLines (s.length + 1) .initial s).members

end Grounding.Toml

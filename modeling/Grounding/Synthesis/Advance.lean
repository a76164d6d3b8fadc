import Grounding.Synthesis.Create

/-!
# The next value up or down

Around a value of an equivalence class lie its neighbours, which are worth testing too. Upwards a
number grows by a step, a text and a list grow at the end, and a set or a map gains what comes first
after its first member and is not in it yet. Downwards a container loses a member. Values of
external types have no neighbours and stay as they are.
-/

namespace Grounding

/-- The way to a neighbour. -/
inductive Direction where
  | up
  | down
deriving DecidableEq, Repr

def Direction.sign : Direction → Sign
  | up => .plus
  | down => .minus

namespace Synthesis

/-! ### Primitive types -/

/-- The distance between neighbouring floating-point numbers. -/
def floatStep : Binary64 := .ofDecimal false 3 (-1)

/-- What a text gains at its end on the way up. -/
def textSuffix : String := "~Z"

/-- What a text gains in front on the way down. -/
def textPrefix : String := "A-"

/-- A text and the suffix; a sequence of another type cannot be joined to a text. -/
def extendText : Value → Except Fault Value
  | .text s => .ok (.text (s ++ textSuffix))
  | x@(.list _) => .error (.mismatch (.concatenation x.typeName "str"))
  | .tuple _ | .pair _ _ => .error (.mismatch (.concatenation "tuple" "str"))
  | x => .error (.mismatch (.operands .plus x.typeName "str"))

/-- The prefix and a text, which stays empty if it is. -/
def precedeText : Value → Except Fault Value
  | .text s => .ok (.text (if s.isEmpty then s else textPrefix ++ s))
  | x => .error (.mismatch (.concatenation "str" x.typeName))

/-- The sum of a value and a signed step, where the step is an integer or a float. -/
def addStep (sign : Sign) (stepType : String) (onInt : Int → Except Fault Value)
    (onFloat : Binary64 → Except Fault Value) : Value → Except Fault Value
  | .bool b => onInt (if b then 1 else 0)
  | .int n => onInt n
  | .float x => onFloat x
  | .nan _ => onFloat .nan
  | x =>
    match sign, x with
    | .plus, .text _ | .plus, .list _ => .error (.mismatch (.concatenation x.typeName stepType))
    | .plus, .tuple _ | .plus, .pair _ _ => .error (.mismatch (.concatenation "tuple" stepType))
    | _, _ => .error (.mismatch (.operands sign x.typeName stepType))

def moveIntegral (dir : Direction) (x : Value) : Except Fault Value :=
  let step : Int := match dir with | .up => 1 | .down => -1
  let one : Binary64 := .ofDecimal (dir == .down) 1 0
  addStep dir.sign "int" (fun n => .ok (.int (n + step))) (fun y => .ok (.float (y + one))) x

/-- The neighbour of a floating-point number. -/
def moveFloating (dir : Direction) (x : Value) : Except Fault Value :=
  let step := match dir with | .up => floatStep | .down => -floatStep
  addStep dir.sign "float"
    (fun n =>
      match Binary64.ofInt? n with
      | some y => .ok (.float (y + step))
      | none => .error .tooLarge)
    (fun y => .ok (.float (y + step))) x

/-- The least character of the downward moves. -/
def characterFloor : Char := '0'

/-- The character after another one. The numbers from `0xd800` to `0xdfff` belong to surrogates, which
are no characters, and are jumped over. -/
def nextChar? (c : Char) : Option Char :=
  let n := if c.toNat == 0xd7ff then 0xe000 else c.toNat + 1
  if n.isValidChar then some (Char.ofNat n) else none

/-- The character before another one, which is on the other side of the surrogates if `c` is the first
behind them. -/
def previousChar? (c : Char) : Option Char :=
  if c.toNat == 0 then none
  else some (Char.ofNat (if c.toNat == 0xe000 then 0xd7ff else c.toNat - 1))

/-- The neighbour of a character; the floor has none below it. -/
def moveCharacter (dir : Direction) : Value → Except Fault Value
  | .text s =>
    match dir, s.toList with
    | .down, [c] =>
      if c == characterFloor then .ok (.text s)
      else
        match previousChar? c with
        | some d => .ok (.text (String.singleton d))
        | none => .error .noCharacter
    | .up, [c] =>
      match nextChar? c with
      | some d => .ok (.text (String.singleton d))
      | none => .error .noCharacter
    | _, cs => .error (.mismatch (.notOneCharacter cs.length))
  | x => .error (.mismatch (.notText x.typeName))

def movePrimitive (dir : Direction) (p : Primitive) (x : Value) : Except Fault Value :=
  match p.scalar with
  | .text =>
    match dir with
    | .up => extendText x
    | .down => precedeText x
  | .character => moveCharacter dir x
  | .boolean => .ok (.bool !x.isTruthy)
  | .integral => moveIntegral dir x
  | .floating => moveFloating dir x

/-! ### Containers -/

/-- What a value yields when it is gone through, or the fault that it yields nothing. -/
def elementsOf (x : Value) : Except Fault (List Value) :=
  match x.elements? with
  | some xs => .ok xs
  | none => .error (.mismatch (.notIterable x.typeName))

/-- The distinct elements of a value that is read as a set. -/
def memberList (x : Value) : Except Fault (List Value) := do
  (← elementsOf x).foldlM (fun ys y => do
    y.requireHashable
    return y.insertMember ys) []

def readEntry (element : Nat) (x : Value) : Except Fault (Value × Value) :=
  match x.elements? with
  | some [k, item] => .ok (k, item)
  | some parts => .error (.entryLength element parts.length)
  | none => .error (.mismatch (.notEntry element))

/-- Adds the entries that elements stand for, numbered from the given one on. -/
def addEntries : Nat → List (Value × Value) → List Value → Except Fault (List (Value × Value))
  | _, es, [] => .ok es
  | element, es, x :: rest => do
    let (k, item) ← readEntry element x
    k.requireHashable
    addEntries (element + 1) (k.putEntry item es) rest

def entryList : Value → Except Fault (List (Value × Value))
  | .map es => .ok es
  | x => do addEntries 0 [] (← elementsOf x)

/-- Looks up the first element of a value, which only a map admits. -/
def lookUpFirst : Value → Except Fault Unit
  | .list (x :: _) => .error (.mismatch (.notIndex "list" x.typeName))
  | .tuple (x :: _) | .pair x _ => .error (.mismatch (.notIndex "tuple" x.typeName))
  | x@(.set (_ :: _)) => .error (.mismatch (.notSubscriptable x.typeName))
  | _ => .ok ()

/-- Looks up a key in an empty value. Sets and maps do it by its hash, though a set lets another set
pass; a text admits only texts, but not the empty one; lists and tuples admit any key. -/
def lookUp (k : Value) : Value → Except Fault Unit
  | .text _ =>
    match k with
    | .text s => if s.isEmpty then .error (.mismatch (.notTextIndex k.typeName)) else .ok ()
    | _ => .error (.mismatch (.notInText k.typeName))
  | .set _ => if k matches .set _ then .ok () else k.requireHashable
  | .map _ => k.requireHashable
  | _ => .ok ()

/-- The entries of a value without the one whose key is the first element. -/
def dropFirst (x : Value) (es : List (Value × Value)) : Except Fault (List (Value × Value)) :=
  match x, x.elements? with
  | .map es, _ => .ok (es.drop 1)
  | _, some (k :: _) => do
    k.requireHashable
    if k.isAmong (es.map Prod.fst) then .ok (es.filter fun e => !Value.same k e.1)
    else .error (.noKey k)
  | _, _ => .ok es

def componentOf (i : Nat) (x : Value) : Except Fault Value :=
  match x with
  | .map es =>
    match es.find? fun e => Value.same (.int i) e.1 with
    | some e => .ok e.2
    | none => .error (.noKey (.int i))
  | .pair .. | .list _ | .tuple _ | .text _ =>
    match (x.elements?.getD [])[i]? with
    | some y => .ok y
    | none =>
      .error (.noComponent
        (match x with
          | .text _ => "string"
          | .list _ => "list"
          | _ => "tuple"))
  | x => .error (.mismatch (.notSubscriptable x.typeName))

variable {m : Type → Type} [Monad m] [MonadExcept Fault m]

/--
Moves on from a state until its key is not among the taken ones. There is no way out once a key is
met again, and since every key on the way is taken, that happens within as many moves as keys are
taken.
-/
def escape {σ : Type} (key : σ → Value) (move : σ → m σ) (taken : List Value) :
    Nat → List Value → σ → m (Option σ)
  | 0, _, _ => pure none
  | moves + 1, seen, s => do
    let s ← move s
    checked (key s).requireHashable
    if !(key s).isAmong taken then return some s
    else if (key s).isAmong seen then return none
    else escape key move taken moves (key s :: seen) s

/-- The members of a set, and one more that is reached from its first member. -/
def growSet (default : m Value) (move : Value → m Value) (xs : List Value) : m (List Value) := do
  match xs with
  | [] =>
    let x ← default
    checked x.requireHashable
    return [x]
  | x :: _ =>
    match ← escape id move xs xs.length [x] x with
    | some y => return xs ++ [y]
    | none => return xs

def moveEntry (moveKey moveItem : Value → m Value) (e : Value × Value) : m (Value × Value) := do
  let k ← moveKey e.1
  return (k, ← moveItem e.2)

/-- The entries of a map, and one more that is reached from its first entry. -/
def growMap (defaultKey defaultItem : m Value) (moveKey moveItem : Value → m Value)
    (es : List (Value × Value)) : m (List (Value × Value)) := do
  match es with
  | [] =>
    let k ← defaultKey
    let item ← defaultItem
    checked k.requireHashable
    return [(k, item)]
  | e :: _ =>
    match ← escape Prod.fst (moveEntry moveKey moveItem) (es.map Prod.fst) es.length [e.1] e with
    | some f => return es ++ [f]
    | none => return es

/-- The elements of a list, and the neighbour of the last one. -/
def growList (default : m Value) (move : Value → m Value) (xs : List Value) : m (List Value) := do
  match xs.getLast? with
  | some x => return xs ++ [← move x]
  | none => return [← default]

def move (ext : Externals m) (dir : Direction) : Descriptor → Value → m Value
  | .primitive p, x => checked (movePrimitive dir p x)
  | .external _, x => pure x
  | .list e, x => do
    let xs ← checked (elementsOf x)
    match dir with
    | .up => return .list (← growList (createDefault ext e) (fun y => move ext dir e y) xs)
    | .down => return .list xs.dropLast
  | .set e, x => do
    let xs ← checked (memberList x)
    match dir with
    | .up => return .set (← growSet (createDefault ext e) (fun y => move ext dir e y) xs)
    | .down => return .set (xs.drop 1)
  | .map k v, x => do
    let es ← checked (entryList x)
    match dir with
    | .up => do
      checked (lookUpFirst x)
      let firstKey := do
        let key ← createDefault ext k
        checked (lookUp key x)
        return key
      return .map (← growMap firstKey (createDefault ext v)
        (fun y => move ext dir k y) (fun y => move ext dir v y) es)
    | .down => return .map (← checked (dropFirst x es))
  | .pair a b, x => do
    let first ← move ext dir a (← checked (componentOf 0 x))
    return .pair first (← move ext dir b (← checked (componentOf 1 x)))

/-- The neighbour above a value. -/
def successor (ext : Externals m) (d : Descriptor) (x : Value) : m Value := move ext .up d x

/-- The neighbour below a value. -/
def predecessor (ext : Externals m) (d : Descriptor) (x : Value) : m Value := move ext .down d x

def moveText (ext : Externals m) (g : Grammar) (dir : Direction) (x : Value) (type : String) :
    m Value := do
  move ext dir (← readType g type) x

end Synthesis

end Grounding

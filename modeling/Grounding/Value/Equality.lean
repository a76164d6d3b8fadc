import Grounding.Value.Basic

/-!
# Equality of values

Numbers are equal when they lie at one place, whatever their types; sets and maps when they hold the
same, in any order; pairs and tuples when their components are. A float that is no number equals
only what bears its mark, and nothing if it has none. What has no hash cannot be a member of a set
or a key of a map.
-/

namespace Grounding.Value

/-- Whether two numbers lie at one place. -/
def samePlace (x y : Value) : Bool :=
  match x.place?, y.place? with
  | some p, some q => p.same q
  | _, _ => false

mutual

def same : Value → Value → Bool
  | none, y => (y matches none)
  | bool b, y => samePlace (bool b) y
  | int n, y => samePlace (int n) y
  | float x, y => samePlace (float x) y
  | nan m, y =>
    match y with
    | nan n => m == n
    | _ => false
  | text s, y =>
    match y with
    | text t => s == t
    | _ => false
  | pair a b, y =>
    match y.components? with
    | some [c, d] => same a c && same b d
    | _ => false
  | list xs, y =>
    match y with
    | list ys => sameItems xs ys
    | _ => false
  | tuple xs, y =>
    match y.components? with
    | some ys => sameItems xs ys
    | _ => false
  | set xs, y =>
    match y with
    | set ys => xs.length == ys.length && within xs ys
    | _ => false
  | map es, y =>
    match y with
    | map fs => es.length == fs.length && entriesWithin es fs
    | _ => false
  | entity m, y =>
    match y with
    | entity n => m == n
    | _ => false
  | object c fs, y =>
    match y with
    | object d gs => c == d && sameFields fs gs
    | _ => false

def sameItems : List Value → List Value → Bool
  | [], ys => ys.isEmpty
  | x :: xs, ys =>
    match ys with
    | y :: ys => same x y && sameItems xs ys
    | [] => false

def within : List Value → List Value → Bool
  | [], _ => true
  | x :: xs, ys => ys.any (fun y => same x y) && within xs ys

def entriesWithin : List (Value × Value) → List (Value × Value) → Bool
  | [], _ => true
  | (k, x) :: rest, es => es.any (fun e => same k e.1 && same x e.2) && entriesWithin rest es

def sameFields : List (String × Value) → List (String × Value) → Bool
  | [], gs => gs.isEmpty
  | (m, x) :: fs, gs =>
    match gs with
    | (n, y) :: gs => m == n && same x y && sameFields fs gs
    | [] => false

end

mutual

/-- The type that keeps a value out of sets, if there is one. -/
def unhashable? : Value → Option String
  | x@(list _) | x@(set _) | x@(map _) => some x.typeName
  | pair a b => (unhashable? a).or (unhashable? b)
  | tuple xs => unhashableItem? xs
  | object cls fs => if cls.hashable then unhashableField? fs else some cls.name
  | _ => Option.none

/-- The type that keeps a tuple out of sets. -/
def unhashableItem? : List Value → Option String
  | [] => Option.none
  | x :: xs => (unhashable? x).or (unhashableItem? xs)

/-- The type of a field that keeps an object out of sets. -/
def unhashableField? : List (String × Value) → Option String
  | [] => Option.none
  | (_, x) :: fs => (unhashable? x).or (unhashableField? fs)

end

/-- Whether a value may be a member of a set. -/
def isHashable (x : Value) : Bool := x.unhashable?.isNone

def isAmong (x : Value) (xs : List Value) : Bool := xs.any fun y => same x y

/-- Adds a member to a set; of equal members the first stays. -/
def insertMember (x : Value) (xs : List Value) : List Value :=
  if x.isAmong xs then xs else xs ++ [x]

/-- Puts an entry into a map; a key that is there already stays, and its value is replaced. -/
def putEntry (k x : Value) : List (Value × Value) → List (Value × Value)
  | [] => [(k, x)]
  | (l, y) :: rest => if same k l then (l, x) :: rest else (l, y) :: putEntry k x rest

def setOf (xs : List Value) : Value := set (xs.foldl (fun ys x => insertMember x ys) [])

def mapOf (es : List (Value × Value)) : Value := map (es.foldl (fun fs e => putEntry e.1 e.2 fs) [])

end Grounding.Value

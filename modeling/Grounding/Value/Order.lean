import Grounding.Value.Equality

/-!
# Order of values

Numbers are ordered by their place, texts by their code points, and pairs and tuples by the first
components that differ. Values of other types, and of types that do not match, are not comparable.
-/

namespace Grounding.Value

/-- Whether a value is a number, or a float that is none. -/
def isNumeric : Value → Bool
  | bool _ | int _ | float _ | nan _ => true
  | _ => false

/-- Whether one number lies before another. -/
def placeBefore? (x y : Value) : Option Bool :=
  if x.isNumeric && y.isNumeric then
    match x.place?, y.place? with
    | some p, some q => some (p.before q)
    | _, _ => some false
  else Option.none

mutual

/-- Whether one value comes strictly before another, if the two can be compared. -/
def before? : Value → Value → Option Bool
  | text s, y =>
    match y with
    | text t => some (decide (s < t))
    | _ => Option.none
  | pair a b, y =>
    match y.components? with
    | some (c :: d :: rest) =>
      if same a c then if same b d then some (!rest.isEmpty) else before? b d else before? a c
    | some [c] => if same a c then some false else before? a c
    | some [] => some false
    | _ => Option.none
  | tuple xs, y =>
    match y.components? with
    | some ys => itemsBefore? xs ys
    | _ => Option.none
  | bool b, y => placeBefore? (bool b) y
  | int n, y => placeBefore? (int n) y
  | float x, y => placeBefore? (float x) y
  | nan m, y => placeBefore? (nan m) y
  | _, _ => Option.none

/-- Whether one sequence comes before another in lexicographic order. -/
def itemsBefore? : List Value → List Value → Option Bool
  | [], ys => some (!ys.isEmpty)
  | x :: xs, ys =>
    match ys with
    | [] => some false
    | y :: ys => if same x y then itemsBefore? xs ys else before? x y

end

def comparable : List Value → Bool
  | [] => true
  | x :: xs => xs.all (fun y => (before? x y).isSome && (before? y x).isSome) && comparable xs

/-- Sorts tagged values in ascending order; if some cannot be compared, their order stays. -/
def sortBy {α : Type} (key : α → Value) (xs : List α) : List α :=
  if comparable (xs.map key) then
    xs.mergeSort fun a b => before? (key b) (key a) != some true
  else xs

end Grounding.Value

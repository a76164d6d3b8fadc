import Grounding.Number.Binary64

/-!
# Shortest decimals

The text of a number has the fewest digits that read back as the same number, and among those the
digits nearest to it. With one to seventeen digits, the two neighbours of the number on the decimal
grid are tried; the first grid with a hit is the coarsest.
-/

namespace Grounding.Binary64

-- Powers are the core library's, whatever else is imported beside this module.
attribute [local instance (high)] instPowNat

/-- Decimal digits with a point: the number is `0.digits * 10 ^ point`. -/
structure Decimal where
  digits : List Char
  point : Int

/-- The number of decimal digits. -/
def digitCount (n : Nat) : Nat := (toString n).length

/-- The place of the point: the fraction lies in `[10 ^ (point - 1), 10 ^ point)`. -/
def pointOfRatio (num den : Nat) : Int :=
  if den ≤ num then digitCount (num / den) else 1 - digitCount (den / num)

/-- The fraction `num / den / 10 ^ q`, as numerator and denominator. -/
def scaleDecimal (num den : Nat) (q : Int) : Nat × Nat :=
  if 0 ≤ q then (num, den * 10 ^ q.toNat) else (num * 10 ^ (-q).toNat, den)

/-- The multiple of `10 ^ q` nearest to the fraction among its two neighbours that round to `x`. -/
def neighbour? (x : Binary64) (num den : Nat) (q : Int) : Option Nat :=
  let (n, d) := scaleDecimal num den q
  let low := n / d
  let reads (k : Nat) : Bool := ofDecimal false k q == x
  match reads low, reads (low + 1) with
  | true, true =>
    let r := 2 * (n % d)
    some (if r < d || (r == d && low % 2 == 0) then low else low + 1)
  | true, false => some low
  | false, true => some (low + 1)
  | false, false => none

def trimZeros (digits : List Char) : List Char :=
  (digits.reverse.dropWhile (· == '0')).reverse

def shortestOfRatio (x : Binary64) (num den : Nat) : Decimal :=
  let point := pointOfRatio num den
  let hit? := (List.range 17).findSome? fun (n : Nat) =>
    (neighbour? x num den (point - (n + 1))).map fun k => (k, point - (n + 1))
  match hit? with
  | some (k, q) =>
    let digits := (toString k).toList
    ⟨trimZeros digits, digits.length + q⟩
  | none => ⟨['0'], 1⟩

/-! ### Text -/

/-- The point from which a number is written with an exponent, and the one up to which it is. -/
def positionalPoints : Int × Int := (-4, 16)

/-- The exponent with its sign and at least two digits. -/
def exponentText (e : Int) : List Char :=
  let digits := (toString e.natAbs).toList
  (if e < 0 then '-' else '+') :: (if digits.length < 2 then '0' :: digits else digits)

/--
The digits with their point. A point too far from the digits is replaced by an exponent; otherwise
at least one digit stands on either side of it.
-/
def Decimal.text (d : Decimal) : List Char :=
  if d.point ≤ positionalPoints.1 || positionalPoints.2 < d.point then
    let fraction := d.digits.drop 1
    d.digits.take 1 ++ (if fraction.isEmpty then [] else '.' :: fraction) ++
      'e' :: exponentText (d.point - 1)
  else if d.point ≤ 0 then
    ['0', '.'] ++ List.replicate (-d.point).toNat '0' ++ d.digits
  else
    let n := d.point.toNat
    if d.digits.length ≤ n then
      d.digits ++ List.replicate (n - d.digits.length) '0' ++ ['.', '0']
    else d.digits.take n ++ '.' :: d.digits.drop n

def text : Binary64 → String
  | .nan => "nan"
  | .infinite false => "inf"
  | .infinite true => "-inf"
  | .finite negative m e =>
    let (num, den) := scaleRatio m 1 (-e)
    let digits :=
      if m == 0 then ['0', '.', '0']
      else (shortestOfRatio (.finite false m e) num den).text
    String.ofList (if negative then '-' :: digits else digits)

end Grounding.Binary64

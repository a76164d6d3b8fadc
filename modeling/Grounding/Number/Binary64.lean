/-!
# Floating-point numbers

Numbers of the format binary64: a sign, a significand of at most 53 bits and a power of two. All
operations compute the exact result and round it once, to the nearest number and a tie to the even
significand, so nothing here depends on the arithmetic of the machine.
-/

namespace Grounding

/-- A number of the format binary64. A finite one is `significand * 2 ^ exponent`. -/
inductive Binary64 where
  | nan
  | infinite (negative : Bool)
  | finite (negative : Bool) (significand : Nat) (exponent : Int)
deriving DecidableEq, Repr

namespace Binary64

-- Powers are the core library's, whatever else is imported beside this module.
attribute [local instance (high)] instPowNat

/-- The exponent of the numbers next to zero. -/
def leastExponent : Int := -1074

def greatestExponent : Int := 971

/-- A zero of either sign. -/
def zero (negative : Bool) : Binary64 := .finite negative 0 leastExponent

/-- The quotient rounded to the nearest integer, a tie to the even one. -/
def roundQuotient (num den : Nat) : Nat :=
  let q := num / den
  let r := 2 * (num % den)
  if den < r then q + 1 else if r < den then q else if q % 2 == 0 then q else q + 1

/-- The fraction `num / den / 2 ^ e`, as numerator and denominator. -/
def scaleRatio (num den : Nat) (e : Int) : Nat × Nat :=
  if 0 ≤ e then (num, den * 2 ^ e.toNat) else (num * 2 ^ (-e).toNat, den)

/-- The exponent at which the fraction fills 53 bits, or the least one. -/
def exponentOfRatio (num den : Nat) : Int :=
  let e : Int := num.log2 - den.log2 - 53
  let (n, d) := scaleRatio num den e
  max leastExponent (if 2 ^ (53 : Nat) ≤ n / d then e + 1 else e)

/-- The number nearest to a fraction with a positive denominator. -/
def ofRatio (negative : Bool) (num den : Nat) : Binary64 :=
  if num == 0 then zero negative
  else
    let e := exponentOfRatio num den
    let (n, d) := scaleRatio num den e
    let m := roundQuotient n d
    let (m, e) := if m == 2 ^ (53 : Nat) then (2 ^ (52 : Nat), e + 1) else (m, e)
    if greatestExponent < e then .infinite negative else .finite negative m e

/--
The number nearest to `digits * 10 ^ exponent`. Beyond the range of the format no power is computed.
-/
def ofDecimal (negative : Bool) (digits : Nat) (exponent : Int) : Binary64 :=
  let reach : Int := (toString digits).length + exponent
  if digits == 0 || reach < -330 then zero negative
  else if 320 < reach then .infinite negative
  else if 0 ≤ exponent then ofRatio negative (digits * 10 ^ exponent.toNat) 1
  else ofRatio negative digits (10 ^ (-exponent).toNat)

/-- The nearest number, unless the integer lies beyond the range of the format. -/
def ofInt? (n : Int) : Option Binary64 :=
  match ofRatio (n < 0) n.natAbs 1 with
  | .infinite _ => none
  | x => some x

def signed (negative : Bool) (m : Nat) : Int := if negative then -m else m

/-- The value, if it is an integer. -/
def toInt? : Binary64 → Option Int
  | .finite negative m e =>
    if 0 ≤ e then some (signed negative (m * 2 ^ e.toNat))
    else if m % 2 ^ (-e).toNat == 0 then some (signed negative (m / 2 ^ (-e).toNat))
    else none
  | _ => none

/-- Whether the number is a zero of either sign. -/
def isZero : Binary64 → Bool
  | .finite _ m _ => m == 0
  | _ => false

/-! ### Arithmetic -/

def neg : Binary64 → Binary64
  | .nan => .nan
  | .infinite negative => .infinite !negative
  | .finite negative m e => .finite (!negative) m e

/-- The exact sum, rounded. Numbers that cancel give a zero without a sign. -/
def add : Binary64 → Binary64 → Binary64
  | .nan, _ | _, .nan => .nan
  | .infinite a, .infinite b => if a == b then .infinite a else .nan
  | .infinite a, .finite .. | .finite .., .infinite a => .infinite a
  | .finite a m e, .finite b n f =>
    let g := min e f
    let sum := signed a (m * 2 ^ (e - g).toNat) + signed b (n * 2 ^ (f - g).toNat)
    if sum == 0 then zero (a && b)
    else
      let (num, den) := scaleRatio sum.natAbs 1 (-g)
      ofRatio (sum < 0) num den

/-- The exact difference, rounded. -/
def sub (x y : Binary64) : Binary64 := add x y.neg

instance : Neg Binary64 := ⟨neg⟩

instance : Add Binary64 := ⟨add⟩

instance : Sub Binary64 := ⟨sub⟩

/-! ### Exact comparison -/

/-- A place on the number line: below all others, at `numerator * 2 ^ exponent`, or above all. -/
inductive Place where
  | below
  | at (numerator exponent : Int)
  | above

/-- Whether one place lies strictly before another. -/
def Place.before : Place → Place → Bool
  | .below, .below => false
  | .below, _ => true
  | .above, _ => false
  | .at .., .below => false
  | .at .., .above => true
  | .at a e, .at b f =>
    let g := min e f
    a * 2 ^ (e - g).toNat < b * 2 ^ (f - g).toNat

def Place.same (p q : Place) : Bool := !p.before q && !q.before p

def place? : Binary64 → Option Place
  | .nan => none
  | .infinite negative => some (if negative then .below else .above)
  | .finite negative m e => some (.at (signed negative m) e)

end Binary64

end Grounding

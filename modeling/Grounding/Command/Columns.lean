/-!
# Widths of columns

The columns of a table that is too wide for the terminal give up cells. The widest columns shrink
first, together and in equal shares, until they are as wide as the next ones; then those shrink too.
-/

namespace Grounding.Columns

-- The sum of no numbers is the core library's zero, whatever else is imported beside this module.
attribute [local instance (high)] Zero.ofOfNat0

/-- A quotient rounded to the nearest number; a half goes to the even neighbour. -/
def roundDiv (n d : Nat) : Nat :=
  let twice := 2 * (n % d)
  if d < twice || (twice == d && n / d % 2 == 1) then n / d + 1 else n / d

/-- Takes cells away from the chosen columns in equal shares, from each no more than it may lose. -/
def shrink (chosen : Nat → Bool) (most : Nat → Nat) : Nat → List Nat → List Nat
  | _, [] => []
  | excess, w :: rest =>
    if chosen w then
      let share := roundDiv excess ((w :: rest).countP chosen)
      let taken := min (most w) share
      (w - taken) :: shrink chosen most (excess - taken) rest
    else w :: shrink chosen most excess rest

/--
Shrinks the widest columns down to the next ones as long as the columns need more than the room.
Each round takes away a cell at least, so the cells in excess are fuel enough.
-/
def lowerWidest (room : Nat) : Nat → List Nat → List Nat
  | 0, ws => ws
  | fuel + 1, ws =>
    let excess := ws.sum - room
    let widest := ws.foldl max 0
    let next := (ws.filter (· != widest)).foldl max 0
    if excess == 0 || widest == next then ws
    else
      lowerWidest room fuel
        (shrink (· == widest) (fun _ => min excess (widest - next)) excess ws)

/-- Widths that fit into the room, if the given ones do not. -/
def fit (room : Nat) (ws : List Nat) : List Nat :=
  let ws := lowerWidest room (ws.sum - room) ws
  shrink (· != 0) id (ws.sum - room) ws

example : fit 20 [12, 4, 15] = [8, 4, 8] := by decide +kernel

end Grounding.Columns

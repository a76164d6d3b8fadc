import Grounding.Text.Hex
import Mathlib.Data.List.Basic

/-!
# Hexadecimal digits read back

A number that has room in a width of hexadecimal digits is the one that these digits write, with
small letters or with capital ones.
-/

namespace Grounding.Text

-- Powers are the core library's, whatever else is imported beside this module.
attribute [local instance (high)] instPowNat

variable {digits : List Char}

/-- The digits of the numbers below sixteen, in order. -/
def IsHexDigits (digits : List Char) : Prop :=
  ∀ k < 16, hexValue? (digits.getD k '0') = some k

theorem isHexDigits_small : IsHexDigits smallHexDigits := by
  unfold IsHexDigits
  decide

theorem isHexDigits_capital : IsHexDigits capitalHexDigits := by
  unfold IsHexDigits
  decide

theorem length_hexText (width n : Nat) : (hexText digits width n).length = width := by
  induction width generalizing n with
  | zero => rfl
  | succ width ih => rw [hexText, List.length_append, ih, List.length_singleton]

theorem all_hexText {p : Char → Bool} (hdigits : digits.all p = true) (hzero : p '0' = true)
    (width n : Nat) : (hexText digits width n).all p = true := by
  induction width generalizing n with
  | zero => rfl
  | succ width ih =>
    rw [hexText, List.all_append, ih, Bool.true_and, List.all_cons, List.all_nil, Bool.and_true,
      List.getD_eq_getElem?_getD]
    cases hd : digits[n % 16]? with
    | none => exact hzero
    | some d => exact List.all_eq_true.1 hdigits d (List.mem_of_getElem? hd)

theorem hexNumber?_append_singleton (s : List Char) (c : Char) :
    hexNumber? (s ++ [c]) = do
      let n ← hexNumber? s
      let d ← hexValue? c
      return 16 * n + d := by
  rw [hexNumber?, List.foldl_append]
  rfl

theorem hexNumber?_hexText (hdigits : IsHexDigits digits) {width n : Nat} (hn : n < 16 ^ width) :
    hexNumber? (hexText digits width n) = some n := by
  induction width generalizing n with
  | zero =>
    obtain rfl : n = 0 := Nat.lt_one_iff.1 hn
    rfl
  | succ width ih =>
    have hrest : n / 16 < 16 ^ width := Nat.div_lt_of_lt_mul (by rwa [Nat.pow_succ'] at hn)
    have hlast : n % 16 < 16 := Nat.mod_lt n (by decide)
    rw [hexText, hexNumber?_append_singleton, ih hrest, hdigits _ hlast]
    exact congrArg some (Nat.div_add_mod n 16)

end Grounding.Text

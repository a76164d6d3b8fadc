import Grounding.Proofs.Text.Balance
import Grounding.Text.TopLevel
import Mathlib.Data.List.Basic

/-!
# Heights and depths

The check of brackets holds a stack; cutting a text and searching it hold a depth that only counts.
Each of the three is followed here with what it holds at the places that it comes to: the same
recursion, and the same result, next to a list of heights or depths (`Trace`).

On a balanced text the depths are the heights of the stack at the same places. A cut passes over its
separator without counting, so this holds for separators without brackets behind the first
character; and a search counts from where it starts, so there the height at that place comes off
(`balanced_with_heights`). Where these two provisos are not met, the depth is another one
(`depths_without_heights`).
-/

namespace Grounding.Text

/-! ### Traces -/

/-- What a scan comes to, and what it holds before each character that it reads and where it
stops. -/
structure Trace (α : Type) where
  result : α
  depths : List Int

namespace Trace

variable {α β : Type}

def map (f : α → β) (t : Trace α) : Trace β := ⟨f t.result, t.depths⟩

/-- The trace of a scan that has read one character more, at the given depth. -/
def read (depth : Int) (f : α → β) (t : Trace α) : Trace β := ⟨f t.result, depth :: t.depths⟩

end Trace

def balancedTrace : List Bracket → List Char → Trace Bool
  | stack, [] => ⟨stack.isEmpty, [stack.length]⟩
  | stack, c :: rest =>
    match stepOpen stack c with
    | some next => (balancedTrace next rest).read stack.length id
    | none => ⟨false, [stack.length]⟩

/-- Cutting a text, with the depths. -/
def splitTrace (sep : List Char) (depth : Int) : Nat → List Char → Trace (List (List Char))
  | _, [] => ⟨[[]], [depth]⟩
  | skip + 1, _ :: rest => (splitTrace sep depth skip rest).read depth id
  | 0, c :: rest =>
    if isOpening c then (splitTrace sep (depth + 1) 0 rest).read depth (consFirst c)
    else if isClosing c then (splitTrace sep (depth - 1) 0 rest).read depth (consFirst c)
    else if depth == 0 && sep.isPrefixOf (c :: rest) then
      (splitTrace sep depth (sep.length - 1) rest).read depth ([] :: ·)
    else (splitTrace sep depth 0 rest).read depth (consFirst c)

/-- Looking for a separator, with the depths. -/
def offsetTrace (sep : List Char) (depth : Int) : List Char → Trace (Option Nat)
  | [] => ⟨none, [depth]⟩
  | c :: rest =>
    if [c] == sep && depth == 0 then ⟨some 0, [depth]⟩
    else (offsetTrace sep (stepDepth depth c) rest).read depth (Option.map (· + 1))

/-- Looking for a separator from some start on, with the depths. -/
def indexTrace (s sep : List Char) (start : Int) : Except IndexError (Trace (Option Int)) :=
  if 0 ≤ start then
    .ok ((offsetTrace sep 0 (s.drop start.toNat)).map (Option.map fun (n : Nat) => start + n))
  else if start < -s.length then
    .error .outOfRange
  else
    .ok ((offsetTrace sep 0 (s.drop (s.length - start.natAbs) ++ s)).map
      (Option.map fun (n : Nat) => start + n))

/-- The heights of the stack at all places of a text, as far as the check comes. -/
def heights (s : List Char) : List Int := (balancedTrace [] s).depths

/-- The height at one place; a negative one counts from the end, and there is none behind the end. -/
def heightAt (s : List Char) (place : Int) : Int :=
  (heights s).getD (if place < 0 then s.length + place else place).toNat 0

variable {s sep : List Char} {stack : List Bracket} {depth : Int}

/-! ### Results -/

theorem result_balancedTrace : (balancedTrace stack s).result = balancedFrom stack s := by
  rw [balancedFrom_eq]
  induction s generalizing stack with
  | nil => cases stack <;> rfl
  | cons c rest ih =>
    rw [balancedTrace, openAfter_cons]
    cases stepOpen stack c with
    | none => rfl
    | some next => exact ih

theorem result_splitTrace (skip : Nat) :
    (splitTrace sep depth skip s).result = splitFrom sep depth skip s := by
  fun_induction splitTrace sep depth skip s with
  | case1 => simp only [splitFrom]
  | case2 depth skip c rest ih => exact ih
  | case3 depth c rest ho ih => rw [splitFrom, if_pos ho, ← ih, Trace.read]
  | case4 depth c rest ho hc ih => rw [splitFrom, if_neg ho, if_pos hc, ← ih, Trace.read]
  | case5 depth c rest ho hc hcut ih =>
    rw [splitFrom, if_neg ho, if_neg hc, if_pos hcut, ← ih, Trace.read]
  | case6 depth c rest ho hc hcut ih =>
    rw [splitFrom, if_neg ho, if_neg hc, if_neg hcut, ← ih, Trace.read]

theorem result_offsetTrace : (offsetTrace sep depth s).result = offsetFrom sep depth s := by
  fun_induction offsetTrace sep depth s with
  | case1 => rfl
  | case2 depth c rest hfound => rw [offsetFrom, if_pos hfound]
  | case3 depth c rest hfound ih => rw [offsetFrom, if_neg hfound, ← ih, Trace.read]

theorem map_result_indexTrace (start : Int) :
    (indexTrace s sep start).map Trace.result = indexOfTopLevel s sep start := by
  rw [indexTrace, indexOfTopLevel]
  split
  · rw [← result_offsetTrace]
    rfl
  · split
    · rfl
    · rw [← result_offsetTrace]
      rfl

/-! ### Places -/

theorem length_offsetTrace : (offsetTrace sep depth s).depths.length =
    (offsetTrace sep depth s).result.getD s.length + 1 := by
  fun_induction offsetTrace sep depth s with
  | case1 | case2 => rfl
  | case3 depth c rest hfound ih =>
    rw [Trace.read, List.length_cons, ih]
    cases (offsetTrace sep (stepDepth depth c) rest).result <;> rfl

theorem length_indexTrace {start : Int} {t : Trace (Option Int)}
    (h : indexTrace s sep start = .ok t) :
    t.depths.length = (t.result.getD s.length - start).toNat + 1 := by
  have hread : ∀ read : List Char, read.length = (s.length - start).toNat →
      t = (offsetTrace sep 0 read).map (Option.map fun (n : Nat) => start + n) →
      t.depths.length = (t.result.getD s.length - start).toNat + 1 := by
    rintro read hlength rfl
    rw [Trace.map, length_offsetTrace, hlength]
    cases (offsetTrace sep 0 read).result with
    | none => rfl
    | some n =>
      simp only [Option.map_some, Option.getD_some]
      omega
  rw [indexTrace] at h
  split at h
  · exact hread _ (by rw [List.length_drop]; omega) (Except.ok.inj h).symm
  · split at h
    · cases h
    · exact hread _ (by rw [List.length_append, List.length_drop]; omega) (Except.ok.inj h).symm

/-! ### Depths -/

theorem nonneg_of_mem_balancedTrace {d : Int} (h : d ∈ (balancedTrace stack s).depths) :
    0 ≤ d := by
  induction s generalizing stack with
  | nil =>
    rw [List.mem_singleton.1 h]
    exact Int.natCast_nonneg _
  | cons c rest ih =>
    rw [balancedTrace] at h
    cases hnext : stepOpen stack c with
    | none =>
      rw [hnext] at h
      rw [List.mem_singleton.1 h]
      exact Int.natCast_nonneg _
    | some next =>
      rw [hnext] at h
      rcases List.mem_cons.1 h with rfl | h
      · exact Int.natCast_nonneg _
      · exact ih h

/-- The heights of a check that goes to the end are the depths of a mere count. -/
theorem depths_balancedTrace {next : List Bracket} (h : openAfter stack s = some next) :
    (balancedTrace stack s).depths = s.scanl stepDepth stack.length := by
  induction s generalizing stack with
  | nil => rw [List.scanl_nil, balancedTrace]
  | cons c rest ih =>
    rw [openAfter_cons, Option.bind_eq_some_iff] at h
    obtain ⟨mid, hmid, hrest⟩ := h
    rw [balancedTrace, hmid, List.scanl_cons, stepDepth_of_stepOpen hmid, ← ih hrest]
    rfl

theorem depths_splitTrace (hsep : ∀ c ∈ sep.tail, isBracket c = false) {skip : Nat}
    (hskip : ∀ c ∈ s.take skip, isBracket c = false) :
    (splitTrace sep depth skip s).depths = s.scanl stepDepth depth := by
  fun_induction splitTrace sep depth skip s with
  | case1 => rw [List.scanl_nil]
  | case2 depth skip c rest ih =>
    rw [List.take_succ_cons, List.forall_mem_cons] at hskip
    rw [List.scanl_cons, stepDepth_plain hskip.1, ← ih hskip.2, Trace.read]
  | case3 depth c rest ho ih =>
    rw [List.scanl_cons, stepDepth, if_pos ho, ← ih (by simp), Trace.read]
  | case4 depth c rest ho hc ih =>
    rw [List.scanl_cons, stepDepth, if_neg ho, if_pos hc, ← ih (by simp), Trace.read]
  | case5 depth c rest ho hc hcut ih =>
    -- what is passed over is the rest of the separator
    have hpassed : ∀ d ∈ rest.take (sep.length - 1), isBracket d = false := by
      cases sep with
      | nil => simp
      | cons a sep' =>
        rw [Bool.and_eq_true, List.isPrefixOf_iff_prefix, List.cons_prefix_cons] at hcut
        obtain ⟨-, -, more, rfl⟩ := hcut
        rw [List.length_cons, Nat.add_sub_cancel, List.take_left]
        exact hsep
    rw [List.scanl_cons, stepDepth, if_neg ho, if_neg hc, ← ih hpassed, Trace.read]
  | case6 depth c rest ho hc hcut ih =>
    rw [List.scanl_cons, stepDepth, if_neg ho, if_neg hc, ← ih (by simp), Trace.read]

theorem depths_offsetTrace : (offsetTrace sep depth s).depths <+: s.scanl stepDepth depth := by
  fun_induction offsetTrace sep depth s with
  | case1 depth => exact List.prefix_refl [depth]
  | case2 depth c rest hfound =>
    rw [List.scanl_cons]
    exact (List.prefix_cons_inj _).2 List.nil_prefix
  | case3 depth c rest hfound ih =>
    rw [List.scanl_cons]
    exact (List.prefix_cons_inj _).2 ih

theorem eq_depthAfter_of_offsetTrace {i : Nat} {d : Int}
    (h : (offsetTrace sep depth s).depths[i]? = some d) : d = depthAfter depth (s.take i) := by
  obtain ⟨hi, rfl⟩ := List.getElem?_eq_some_iff.1 h
  rw [depths_offsetTrace.getElem hi, List.getElem_scanl, depthAfter]

theorem depthAfter_eq_add (depth : Int) (s : List Char) :
    depthAfter depth s = depth + depthAfter 0 s := by
  induction s generalizing depth with
  | nil => rw [depthAfter_nil, depthAfter_nil, Int.add_zero]
  | cons c s ih =>
    have hstep : stepDepth depth c = depth + stepDepth 0 c := by
      rw [stepDepth, stepDepth]
      split
      · rw [Int.zero_add]
      · split <;> omega
    rw [depthAfter_cons, depthAfter_cons, ih, ih (stepDepth 0 c), hstep, Int.add_assoc]

/-! ### Heights -/

theorem heights_eq (hs : Balanced s) : heights s = s.scanl stepDepth 0 :=
  depths_balancedTrace (balanced_iff.1 hs.accepted)

theorem heightAt_natCast (hs : Balanced s) (n : Nat) :
    heightAt s n = depthAfter 0 (s.take n) := by
  rw [heightAt, if_neg (by omega), Int.toNat_natCast, heights_eq hs, List.getD_eq_getElem?_getD,
    List.getElem?_scanl]
  split
  · rfl
  · -- behind the end all is closed again
    rw [List.take_of_length_le (by omega), depthAfter_balanced hs.accepted]
    rfl

theorem heightAt_of_neg (hs : Balanced s) {place : Int} (hneg : place < 0)
    (hplace : -s.length ≤ place) :
    heightAt s place = depthAfter 0 (s.take (s.length - place.natAbs)) := by
  have hn : s.length + place = ((s.length - place.natAbs : Nat) : Int) := by omega
  rw [← heightAt_natCast hs, heightAt, heightAt, if_pos hneg, if_neg (by omega), hn]

theorem depthAfter_take_drop (s : List Char) (n i : Nat) :
    depthAfter 0 ((s.drop n).take i) = depthAfter 0 (s.take (n + i)) - depthAfter 0 (s.take n) := by
  rw [List.take_add, depthAfter_append, depthAfter_eq_add (depthAfter 0 (s.take n))]
  omega

theorem depthAfter_drop_append_take (hs : Balanced s) (n i : Nat) :
    depthAfter 0 (s.drop n ++ s.take i) = depthAfter 0 (s.take i) - depthAfter 0 (s.take n) := by
  have hclosed := depthAfter_balanced hs.accepted
  rw [← List.take_append_drop n s, depthAfter_append, depthAfter_eq_add] at hclosed
  rw [depthAfter_append, depthAfter_eq_add]
  omega

theorem depth_of_indexTrace (hs : Balanced s) {start : Int} {t : Trace (Option Int)}
    (h : indexTrace s sep start = .ok t) {i : Nat} {d : Int} (hi : t.depths[i]? = some d) :
    d = heightAt s (start + i) - heightAt s start := by
  rw [indexTrace] at h
  split at h
  · next hstart =>
    obtain ⟨n, rfl⟩ := Int.eq_ofNat_of_zero_le hstart
    obtain rfl := Except.ok.inj h
    rw [eq_depthAfter_of_offsetTrace hi, Int.toNat_natCast, depthAfter_take_drop,
      ← Int.natCast_add, heightAt_natCast hs, heightAt_natCast hs]
  · next hstart =>
    split at h
    · cases h
    · next hplace =>
      obtain rfl := Except.ok.inj h
      have hbefore : heightAt s start = depthAfter 0 (s.take (s.length - start.natAbs)) :=
        heightAt_of_neg hs (by omega) (by omega)
      rw [eq_depthAfter_of_offsetTrace hi, hbefore]
      have hlength : (s.drop (s.length - start.natAbs)).length = start.natAbs := by
        rw [List.length_drop]
        omega
      by_cases hcase : start + i < 0
      · -- the beginning of the text is not reached
        rw [List.take_append_of_le_length (by omega), depthAfter_take_drop,
          heightAt_of_neg hs hcase (by omega),
          show s.length - (start + i).natAbs = s.length - start.natAbs + i by omega]
      · obtain ⟨j, hj⟩ := Int.eq_ofNat_of_zero_le (Int.not_lt.1 hcase)
        rw [show i = (s.drop (s.length - start.natAbs)).length + j by omega,
          List.take_length_add_append, depthAfter_drop_append_take hs, hlength,
          show start + ((start.natAbs + j : Nat) : Int) = j by omega, heightAt_natCast hs]

/-! ### The scans of a balanced text -/

/-- The check accepts the texts of the grammar. On such a text the stack ends empty, cutting holds
its height at every place, and so does a search that starts outside all groups: elsewhere it holds
the height less that at its start, at every place up to where it stops. -/
theorem balanced_with_heights (s : List Char) :
    balancedTrace [] s = ⟨balanced s, heights s⟩ ∧
    (balanced s = true ↔ Balanced s) ∧
    (Balanced s →
      (heights s).length = s.length + 1 ∧
      (∀ h ∈ heights s, 0 ≤ h) ∧
      (heights s).getLast? = some 0 ∧
      (∀ sep, sep ≠ [] → (∀ c ∈ sep.tail, isBracket c = false) →
        splitTrace sep 0 0 s = ⟨splitTopLevel sep s, heights s⟩) ∧
      ∀ sep start t, indexTrace s sep start = .ok t →
        indexOfTopLevel s sep start = .ok t.result ∧
        t.depths.length = (t.result.getD s.length - start).toNat + 1 ∧
        ∀ (i : Nat) (d : Int), t.depths[i]? = some d →
          d = heightAt s (start + i) - heightAt s start) := by
  refine ⟨?_, balanced_eq_true_iff, fun hs => ⟨?_, ?_, ?_, ?_, ?_⟩⟩
  · rw [heights, balanced, ← result_balancedTrace]
  · rw [heights_eq hs, List.length_scanl]
  · exact fun h => nonneg_of_mem_balancedTrace
  · rw [heights_eq hs, List.getLast?_scanl]
    exact congrArg some (depthAfter_balanced hs.accepted)
  · intro sep _ hsep
    have hdepths : (splitTrace sep 0 0 s).depths = s.scanl stepDepth 0 :=
      depths_splitTrace hsep (by simp)
    rw [heights_eq hs, ← hdepths, splitTopLevel, ← result_splitTrace]
  · intro sep start t ht
    refine ⟨?_, length_indexTrace ht, fun i d => depth_of_indexTrace hs ht⟩
    rw [← map_result_indexTrace, ht]
    rfl

/-- Groups in groups, cut at a comma and a blank, and searched from within. -/
theorem balanced_with_heights_nested :
    let s := ['[', '1', ',', ' ', '{', 'a', '=', '<', 'b', '>', '}', ']']
    balanced s = true ∧ (∀ c ∈ [' '], isBracket c = false) ∧
      (splitTrace [',', ' '] 0 0 s).depths = [0, 1, 1, 1, 1, 2, 2, 2, 3, 3, 2, 1, 0] ∧
      indexTrace s ['>'] 5 = .ok ⟨none, [0, 0, 0, 1, 1, 0, -1, -2]⟩ ∧
      heightAt s 5 = 2 ∧ heightAt s 9 = 3 := by
  intro s
  have hbalanced : balanced s = true := by decide
  have hplain : ∀ c ∈ [' '], isBracket c = false := List.forall_mem_singleton.2 rfl
  have hsearch : indexTrace s ['>'] 5 = .ok ⟨none, [0, 0, 0, 1, 1, 0, -1, -2]⟩ := rfl
  obtain ⟨-, hiff, hscans⟩ := balanced_with_heights s
  obtain ⟨-, -, -, hsplit, hindex⟩ := hscans (hiff.1 hbalanced)
  obtain ⟨-, -, hdepth⟩ := hindex _ _ _ hsearch
  have hstart : heightAt s 5 = 2 := rfl
  have hplace := hdepth 4 1 rfl
  refine ⟨hbalanced, hplain, ?_, hsearch, hstart, ?_⟩
  · rw [hsplit [',', ' '] (List.cons_ne_nil _ _) hplain]
    rfl
  · rw [hstart] at hplace
    have hheight : heightAt s 9 - 2 = 1 := hplace.symm
    omega

/-- Without the provisos the depth is not the height. A separator hides the bracket in it, so that
the comma within the group counts, and the depth falls below zero; and a search that starts within a
group takes it for the top level. -/
theorem depths_without_heights :
    (Balanced [',', '[', 'a', ',', '[', 'b', ']', ']'] ∧
      heights [',', '[', 'a', ',', '[', 'b', ']', ']'] = [0, 0, 1, 1, 1, 2, 2, 1, 0] ∧
      splitTrace [',', '['] 0 0 [',', '[', 'a', ',', '[', 'b', ']', ']'] =
        ⟨[[], ['a'], ['b', ']', ']']], [0, 0, 0, 0, 0, 0, 0, -1, -2]⟩) ∧
    Balanced ['(', 'a', ',', 'b', ')'] ∧
      heights ['(', 'a', ',', 'b', ')'] = [0, 1, 1, 1, 1, 0] ∧
      indexTrace ['(', 'a', ',', 'b', ')'] [','] 1 = .ok ⟨some 2, [0, 0]⟩ := by
  refine ⟨⟨balanced_eq_true_iff.1 ?_, rfl, rfl⟩, balanced_eq_true_iff.1 ?_, rfl, rfl⟩ <;> decide

end Grounding.Text

import Grounding.Proofs.Text.Splitting

/-!
# Looking for a character at the top level

Cutting a text at a character and looking for that character are two scans. The one carries the
depth on from a cut to the next, the other starts anew behind each place that it has found. Both
agree on every text, balanced or not, since the depth is zero wherever the text is cut.
-/

namespace Grounding.Text

/-- The places of a character outside all brackets, the first of which is looked for from the given
start, and each other one behind the place before it, until there is none. -/
inductive FoundFrom (s : List Char) (c : Char) : Nat → List Nat → Prop
  | absent {start : Nat} : indexOfTopLevel s [c] start = .ok none → FoundFrom s c start []
  | next {start place : Nat} {places : List Nat} :
      indexOfTopLevel s [c] start = .ok (some place) → FoundFrom s c (place + 1) places →
        FoundFrom s c start (place :: places)

/-- The parts of a text from a start on, without the characters at the given places. -/
def cutAt (s : List Char) (start : Nat) : List Nat → List (List Char)
  | [] => [s.drop start]
  | place :: places => s.extract start place :: cutAt s (place + 1) places

variable {c : Char} {s : List Char}

/-! ### The first place -/

theorem Undivided.tail {sep : List Char} {depth : Int} {d : Char}
    (h : Undivided sep depth (d :: s)) : Undivided sep (stepDepth depth d) s := by
  intro before after hs
  exact h (d :: before) after (by rw [hs]; rfl)

theorem offsetFrom_cons {depth : Int} {d : Char} (h : Undivided [c] depth (d :: s))
    (rest : List Char) :
    offsetFrom [c] depth (d :: rest) = (offsetFrom [c] (stepDepth depth d) rest).map (· + 1) := by
  have hd : ¬ (([d] == [c] && depth == 0) = true) := by
    rw [Bool.and_eq_true, beq_iff_eq, beq_iff_eq, List.cons.injEq]
    rintro ⟨⟨rfl, -⟩, hdepth⟩
    exact h [] s rfl hdepth
  rw [offsetFrom, if_neg hd]

theorem offsetFrom_of_undivided {depth : Int} (h : Undivided [c] depth s) :
    offsetFrom [c] depth s = none := by
  induction s generalizing depth with
  | nil => rfl
  | cons d s ih => rw [offsetFrom_cons h, ih h.tail, Option.map_none]

theorem offsetFrom_append {p : List Char} {depth : Int} (hp : Undivided [c] depth p)
    (hdepth : depthAfter depth p = 0) (rest : List Char) :
    offsetFrom [c] depth (p ++ c :: rest) = some p.length := by
  induction p generalizing depth with
  | nil =>
    rw [depthAfter_nil] at hdepth
    simp [offsetFrom, hdepth]
  | cons d p ih =>
    rw [List.cons_append, offsetFrom_cons hp, ih hp.tail hdepth, Option.map_some, List.length_cons]

theorem indexOfTopLevel_append (before rest : List Char) (c : Char) :
    indexOfTopLevel (before ++ rest) [c] before.length =
      .ok ((offsetFrom [c] 0 rest).map fun (n : Nat) => (before.length : Int) + n) := by
  rw [indexOfTopLevel, if_pos (Int.natCast_nonneg _), Int.toNat_natCast, List.drop_left]

/-! ### All places -/

theorem FoundFrom.unique {start : Nat} {places others : List Nat} (h : FoundFrom s c start places)
    (h' : FoundFrom s c start others) : places = others := by
  induction h generalizing others with
  | absent hnone =>
    cases h' with
    | absent _ => rfl
    | next hsome _ =>
      rw [hnone] at hsome
      cases hsome
  | next hsome _ ih =>
    cases h' with
    | absent hnone =>
      rw [hnone] at hsome
      cases hsome
    | next hsome' hrest =>
      rw [hsome] at hsome'
      obtain rfl := Int.ofNat.inj (Option.some.inj (Except.ok.inj hsome'))
      rw [ih hrest]

theorem exists_foundFrom (hc : isBracket c = false) (s : List Char) : ∀ before : List Char,
    ∃ places, FoundFrom (before ++ s) c before.length places ∧
      splitTopLevel [c] s = cutAt (before ++ s) before.length places := by
  have hsep := isSeparator_singleton hc
  induction s using splitTopLevel_induction hsep.ne_nil hsep.plain with
  | whole s hs =>
    intro before
    refine ⟨[], .absent ?_, ?_⟩
    · rw [indexOfTopLevel_append, offsetFrom_of_undivided hs, Option.map_none]
    · rw [cutAt, List.drop_left]
  | cut p rest parts hp hdepth ih =>
    intro before
    -- the scan goes on behind the character that was found
    obtain ⟨places, hfound, hparts⟩ := ih (before ++ p ++ [c])
    have hwhole : before ++ (p ++ [c] ++ rest) = before ++ p ++ [c] ++ rest := by
      simp only [List.append_assoc]
    have hlength : (before ++ p ++ [c]).length = (before ++ p).length + 1 := by
      rw [List.length_append, List.length_singleton]
    rw [hlength] at hfound hparts
    refine ⟨(before ++ p).length :: places, .next ?_ ?_, ?_⟩
    · rw [List.append_assoc p, indexOfTopLevel_append, List.singleton_append,
        offsetFrom_append hp hdepth, List.length_append]
      rfl
    · rw [hwhole]
      exact hfound
    · have hpart : (before ++ p ++ [c] ++ rest).extract before.length (before ++ p).length = p := by
        rw [List.extract_eq_drop_take', List.append_assoc (before ++ p), List.take_left,
          List.drop_left]
      rw [cutAt, hparts, hwhole, hpart]

/-- A text is cut at a character where that is found: behind the last place found, until it is found
no more. -/
theorem splitTopLevel_eq_cutAt (hc : isBracket c = false) (s : List Char) :
    (∃ places, FoundFrom s c 0 places) ∧
      ∀ places, FoundFrom s c 0 places → splitTopLevel [c] s = cutAt s 0 places := by
  obtain ⟨places, hfound, hparts⟩ := exists_foundFrom hc s []
  rw [List.nil_append, List.length_nil] at hfound hparts
  refine ⟨⟨places, hfound⟩, ?_⟩
  intro others hothers
  rw [← hfound.unique hothers]
  exact hparts

/-- The depth falls below zero first, and the commas count again behind the bracket that opens. -/
theorem splitTopLevel_eq_cutAt_unbalanced :
    let s := [']', ',', '[', ',', 'a', ',', '(', ',', 'b']
    isBracket ',' = false ∧ FoundFrom s ',' 0 [3, 5] ∧
      splitTopLevel [','] s = [[']', ',', '['], ['a'], ['(', ',', 'b']] := by
  intro s
  have hplain : isBracket ',' = false := by decide
  have hfound : FoundFrom s ',' 0 [3, 5] :=
    .next rfl (.next rfl (.absent rfl))
  exact ⟨hplain, hfound, (splitTopLevel_eq_cutAt hplain s).2 _ hfound⟩

end Grounding.Text

import Grounding.Proofs.Synthesis.Limits
import Grounding.Proofs.Synthesis.Orbits

/-!
# What a set or a map gains

A move up from a set is a search that starts from its first member, and a move up from a map one
that starts from its first entry. What is there stays in its place, and what the search finds comes
after it.
-/

namespace Grounding.Synthesis

open Outcome Value

/-- The first one of a list, or what is made if there is none. -/
def firstOr {σ : Type} (default : Except Fault σ) : List σ → Except Fault σ
  | [] => default
  | s :: _ => .ok s

variable {ext : Externals (Except Fault)} {dir : Direction} {d e k v : Descriptor}

theorem move_eq_of_isHashable (hd : d.isHashable = true) : move ext dir d = Model.move dir d := by
  induction d with
  | primitive p => rfl
  | external type => rfl
  | list e _ => cases hd
  | set e _ => cases hd
  | map k v _ _ => cases hd
  | pair a b iha ihb =>
    obtain ⟨ha, hb⟩ := Bool.and_eq_true_iff.1 hd
    funext x
    simp only [Model.move, move, iha ha, ihb hb]

theorem exists_advance {x : Value} (hd : d.isBoundless = true) (hx : x.Inhabits d) (n : ℕ) :
    ∃ y, advance (Model.move dir d) n x = .ok y := by
  induction n with
  | zero => exact ⟨x, rfl⟩
  | succ n ih =>
    obtain ⟨y, hy⟩ := ih
    have hyd : y.Inhabits d :=
      advance_keeps (P := fun u => u.Inhabits d) (fun _ _ hu h => inhabits_move hu h) hx hy
    obtain ⟨z, hz⟩ := exists_neighbour hd hyd dir
    exact ⟨z, advance_succ_eq_ok_iff.2 ⟨y, hy, hz⟩⟩

theorem keySearch_set (ext : Externals (Except Fault)) {x : Value} {xs : List Value}
    (he : e.isFloatFree = true) (hset : (set (x :: xs)).Inhabits (.set e)) :
    KeySearch (fun y => y.Inhabits e) id (move ext .up e) (move ext .up e) (x :: xs) e x := by
  cases hset with
  | set hxs hdistinct =>
    have hx := hxs x List.mem_cons_self
    have hhash := hdistinct.hashable x List.mem_cons_self
    rw [move_eq_of_isHashable ((isHashable_of_inhabits hx).symm.trans hhash)]
    exact ⟨keepsKeys_set hx hhash, he, hxs, fun _ _ h => h, hx⟩

theorem keySearch_map (ext : Externals (Except Fault)) {f : Value × Value}
    {es : List (Value × Value)} (hk : k.isFloatFree = true)
    (hmap : (map (f :: es)).Inhabits (.map k v)) :
    KeySearch (fun g => g.1.Inhabits k) Prod.fst (moveEntry (move ext .up k) (move ext .up v))
      (move ext .up k) ((f :: es).map Prod.fst) k f := by
  cases hmap with
  | map hkeys _ hdistinct =>
    have hf := hkeys f List.mem_cons_self
    have hhash := (isHashable_of_inhabits hf).symm.trans
      (hdistinct.hashable f.1 (List.mem_map_of_mem List.mem_cons_self))
    rw [move_eq_of_isHashable hhash]
    refine ⟨⟨hhash, fun _ hg => hg, fun g g' hg h => ?_⟩, hk, List.forall_mem_map.2 hkeys,
      fun _ _ h => (moveEntry_eq_ok_iff.1 h).1, hf⟩
    exact inhabits_move hg (moveEntry_eq_ok_iff.1 h).1

theorem growSet_of_escape {default : Except Fault Value} {step : Value → Except Fault Value}
    {x : Value} {xs : List Value} {found : Option Value}
    (h : escape id step (x :: xs) (x :: xs).length [x] x = .ok found) :
    growSet default step (x :: xs) = .ok (x :: xs ++ found.toList) := by
  rw [growSet, h]
  cases found with
  | none => exact congrArg Except.ok (List.append_nil _).symm
  | some y => rfl

theorem growMap_of_escape {defaultKey defaultItem : Except Fault Value}
    {moveKey moveItem : Value → Except Fault Value} {f : Value × Value}
    {es : List (Value × Value)} {found : Option (Value × Value)}
    (h : escape Prod.fst (moveEntry moveKey moveItem) ((f :: es).map Prod.fst) (f :: es).length
      [f.1] f = .ok found) :
    growMap defaultKey defaultItem moveKey moveItem (f :: es) =
      .ok (f :: es ++ found.toList) := by
  rw [growMap, h]
  cases found with
  | none => exact congrArg Except.ok (List.append_nil _).symm
  | some y => rfl

theorem move_set_up_nil {x : Value} (hx : createDefault ext e = .ok x)
    (hhash : x.isHashable = true) : move ext .up (.set e) (.set []) = .ok (.set [x]) := by
  have hok := (requireHashable_eq_ok_iff (u := ())).2 hhash
  simp only [move_set_up e distinct_nil, growSet, hx, checked_eq, bind, Except.bind, pure,
    Except.pure, hok]

theorem move_map_up_nil {key item : Value} (hkey : createDefault ext k = .ok key)
    (hitem : createDefault ext v = .ok item) (hhash : key.isHashable = true) :
    move ext .up (.map k v) (.map []) = .ok (.map [(key, item)]) := by
  have hok := (requireHashable_eq_ok_iff (u := ())).2 hhash
  simp only [move_map_up, growMap, hkey, hitem, checked_eq, bind, Except.bind, pure, Except.pure,
    hok]

theorem exists_search_set {xs : List Value} {x : Value} (he : e.isFloatFree = true)
    (hset : (set xs).Inhabits (.set e)) (hx : firstOr (createDefault ext e) xs = .ok x)
    (hhash : xs = [] → x.isHashable = true)
    (hgoes : ∀ n, StaysIn (move ext .up e) xs x n → ∃ y, advance (move ext .up e) n x = .ok y) :
    ∃ tests found, Search id (move ext .up e) xs [] x tests found ∧
      tests.length ≤ xs.length + 1 ∧ Finds id (move ext .up e) (move ext .up e) xs x found ∧
        move ext .up (.set e) (.set xs) = .ok (.set (xs ++ found.toList)) := by
  cases xs with
  | nil =>
    exact ⟨[x], some x, .free rfl, Nat.le_refl _,
      .out ⟨staysIn_zero, rfl, List.not_mem_nil⟩ rfl, move_set_up_nil hx (hhash rfl)⟩
  | cons y xs =>
    obtain rfl : y = x := Except.ok.inj hx
    obtain ⟨tests, found, hsearch, htests, hfound, hescape⟩ :=
      (keySearch_set ext he hset).exists_escape List.mem_cons_self hgoes
    refine ⟨tests, found, hsearch, htests, hfound, ?_⟩
    cases hset with
    | set _ hdistinct =>
      rw [move_set_up e hdistinct, growSet_of_escape hescape]
      rfl

theorem exists_search_map {es : List (Value × Value)} {f : Value × Value}
    (hk : k.isFloatFree = true) (hmap : (map es).Inhabits (.map k v))
    (hf : firstOr (do return (← createDefault ext k, ← createDefault ext v)) es = .ok f)
    (hhash : es = [] → f.1.isHashable = true)
    (hgoes : ∀ n, StaysIn (move ext .up k) (es.map Prod.fst) f.1 n →
      ∃ g, advance (moveEntry (move ext .up k) (move ext .up v)) n f = .ok g) :
    ∃ tests found, Search Prod.fst (moveEntry (move ext .up k) (move ext .up v))
        (es.map Prod.fst) [] f tests found ∧
      tests.length ≤ es.length + 1 ∧
        Finds Prod.fst (moveEntry (move ext .up k) (move ext .up v)) (move ext .up k)
          (es.map Prod.fst) f found ∧
            move ext .up (.map k v) (.map es) = .ok (.map (es ++ found.toList)) := by
  cases es with
  | nil =>
    obtain ⟨key, hkey, hf⟩ := bind_eq_ok_iff.1 hf
    obtain ⟨item, hitem, rfl⟩ := map_eq_ok_iff.1 hf
    exact ⟨[key], some (key, item), .free rfl, Nat.le_refl _,
      .out ⟨staysIn_zero, rfl, List.not_mem_nil⟩ rfl, move_map_up_nil hkey hitem (hhash rfl)⟩
  | cons g es =>
    obtain rfl : g = f := Except.ok.inj hf
    obtain ⟨tests, found, hsearch, htests, hfound, hescape⟩ :=
      (keySearch_map ext hk hmap).exists_escape List.mem_cons_self hgoes
    rw [List.length_map] at htests hescape
    refine ⟨tests, found, hsearch, htests, hfound, ?_⟩
    rw [move_map_up]
    dsimp only
    rw [growMap_of_escape hescape]
    rfl

/-- A set gains the first value on the way from its first member that it does not have; a map gains
the first such key on the way from its first one, with the item that as many moves lead to. If there
is no such value, they stay as they are. An empty set or map gains the default values, if these have
a hash. The search ends, and looks up at most one key more than there are. -/
theorem grows_by_first_free (ext : Externals (Except Fault)) :
    (∀ (e : Descriptor) (xs : List Value) (x : Value), e.isFloatFree = true →
      (set xs).Inhabits (.set e) → firstOr (createDefault ext e) xs = .ok x →
      (xs = [] → x.isHashable = true) →
      (∀ n, StaysIn (move ext .up e) xs x n → ∃ y, advance (move ext .up e) n x = .ok y) →
      ∃ tests found, Search id (move ext .up e) xs [] x tests found ∧
        tests.length ≤ xs.length + 1 ∧
        ((∃ n y, LeadsOut (move ext .up e) xs x n y ∧ found = some y ∧
            move ext .up (.set e) (.set xs) = .ok (.set (xs ++ [y]))) ∨
          (∀ n, StaysIn (move ext .up e) xs x n) ∧ found = Option.none ∧
            move ext .up (.set e) (.set xs) = .ok (.set xs))) ∧
    (∀ (k v : Descriptor) (es : List (Value × Value)) (key item : Value), k.isFloatFree = true →
      (map es).Inhabits (.map k v) →
      firstOr (do return (← createDefault ext k, ← createDefault ext v)) es = .ok (key, item) →
      (es = [] → key.isHashable = true) →
      (∀ n, StaysIn (move ext .up k) (es.map Prod.fst) key n →
        (∃ key', advance (move ext .up k) n key = .ok key') ∧
          ∃ item', advance (move ext .up v) n item = .ok item') →
      ∃ tests found, Search Prod.fst (moveEntry (move ext .up k) (move ext .up v))
          (es.map Prod.fst) [] (key, item) tests found ∧
        tests.length ≤ es.length + 1 ∧
        ((∃ n key' item', LeadsOut (move ext .up k) (es.map Prod.fst) key n key' ∧
            advance (move ext .up v) n item = .ok item' ∧ found = some (key', item') ∧
              move ext .up (.map k v) (.map es) = .ok (.map (es ++ [(key', item')]))) ∨
          (∀ n, StaysIn (move ext .up k) (es.map Prod.fst) key n) ∧ found = Option.none ∧
            move ext .up (.map k v) (.map es) = .ok (.map es))) := by
  constructor
  · intro e xs x he hset hx hhash hgoes
    obtain ⟨tests, found, hsearch, htests, hfound, hmove⟩ :=
      exists_search_set he hset hx hhash hgoes
    refine ⟨tests, found, hsearch, htests, ?_⟩
    cases hfound with
    | @out n y hout _ => exact .inl ⟨n, y, hout, rfl, hmove⟩
    | trapped hstays =>
      rw [Option.toList_none, List.append_nil] at hmove
      exact .inr ⟨hstays, rfl, hmove⟩
  · intro k v es key item hk hmap hf hhash hgoes
    have hentries : ∀ n, StaysIn (move ext .up k) (es.map Prod.fst) key n →
        ∃ g, advance (moveEntry (move ext .up k) (move ext .up v)) n (key, item) = .ok g := by
      intro n hstays
      obtain ⟨⟨key', hkey⟩, item', hitem⟩ := hgoes n hstays
      exact ⟨(key', item'), advance_moveEntry_eq_ok_iff.2 ⟨hkey, hitem⟩⟩
    obtain ⟨tests, found, hsearch, htests, hfound, hmove⟩ :=
      exists_search_map hk hmap hf hhash hentries
    refine ⟨tests, found, hsearch, htests, ?_⟩
    cases hfound with
    | @out n g hout hreaches =>
      have hitem := (advance_moveEntry_eq_ok_iff.1 hreaches).2
      exact .inl ⟨n, g.1, g.2, hout, hitem, rfl, hmove⟩
    | trapped hstays =>
      rw [Option.toList_none, List.append_nil] at hmove
      exact .inr ⟨hstays, rfl, hmove⟩

/-- From the number 1, a set that has 1 and 2 gains the first number after them. A map that has both
truth values as keys gains nothing. -/
theorem grows_by_first_free_samples :
    (∃ n y, LeadsOut (Model.move .up (.primitive .integer)) [int 1, int 2] (int 1) n y ∧
      Model.move .up (.set (.primitive .integer)) (.set [int 1, int 2]) =
        .ok (.set [int 1, int 2, y])) ∧
    (∀ n, StaysIn (Model.move .up (.primitive .boolean)) [bool true, bool false] (bool true) n) ∧
      Model.move .up (.map (.primitive .boolean) (.primitive .string))
          (.map [(bool true, text "a"), (bool false, text "b")]) =
        .ok (.map [(bool true, text "a"), (bool false, text "b")]) := by
  have hset : Model.move .up (.set (.primitive .integer)) (.set [int 1, int 2]) =
      .ok (.set [int 1, int 2, int 3]) := by
    cbv
  have hmap : Model.move .up (.map (.primitive .boolean) (.primitive .string))
      (.map [(bool true, text "a"), (bool false, text "b")]) =
        .ok (.map [(bool true, text "a"), (bool false, text "b")]) := by
    cbv
  have hnumbers : Model.create (.set (.primitive .integer)) "[1, 2]" =
      .ok (.set [int 1, int 2]) := by
    cbv
  have hkeys : Model.create (.map (.primitive .boolean) (.primitive .string))
      "\x7btrue=a, false=b\x7d" =
        .ok (.map [(bool true, text "a"), (bool false, text "b")]) := by
    cbv
  have hgrows := grows_by_first_free Model.externals
  refine ⟨?_, ?_, hmap⟩
  · obtain ⟨_, _, -, -, ⟨n, y, hout, -, hmove⟩ | ⟨-, -, hmove⟩⟩ :=
      hgrows.1 (.primitive .integer) [int 1, int 2] (int 1) rfl (inhabits_of_create hnumbers) rfl
        (absurd · (List.cons_ne_nil _ _))
        fun n _ => exists_advance rfl (.primitive (p := .integer) (.integral 1)) n
    · exact ⟨n, y, hout, hmove⟩
    · cases hset.symm.trans hmove
  · obtain ⟨_, _, -, -, ⟨_, _, _, -, -, -, hmove⟩ | ⟨hstays, -, -⟩⟩ :=
      hgrows.2 (.primitive .boolean) (.primitive .string)
        [(bool true, text "a"), (bool false, text "b")] (bool true) (text "a") rfl
        (inhabits_of_create hkeys) rfl (absurd · (List.cons_ne_nil _ _)) fun n _ =>
          ⟨exists_advance rfl (.primitive (p := .boolean) (.boolean true)) n,
            exists_advance rfl (.primitive (p := .string) (.text "a")) n⟩
    · cases hmap.symm.trans hmove
    · exact hstays

/-- The default of a type of lists may not stand in a set: an empty set of lists has nothing to
gain, although moves from that default go on for ever. -/
theorem empty_set_of_lists_gains_nothing :
    (Descriptor.list (.primitive .integer)).isFloatFree = true ∧
      (set []).Inhabits (.set (.list (.primitive .integer))) ∧
      firstOr (createDefault Model.externals (.list (.primitive .integer))) [] =
        (.ok (list []) : Except Fault Value) ∧
      (∀ n, ∃ y, advance (Model.move .up (.list (.primitive .integer))) n (list []) = .ok y) ∧
      Model.move .up (.set (.list (.primitive .integer))) (.set []) =
        .error (.mismatch (.unhashable "list")) :=
  ⟨rfl, .set (List.forall_mem_nil _) distinct_nil, rfl,
    exists_advance rfl (.list (List.forall_mem_nil _)), rfl⟩

end Grounding.Synthesis

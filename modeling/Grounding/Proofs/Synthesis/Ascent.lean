import Grounding.Proofs.Synthesis.Limits
import Grounding.Proofs.Synthesis.Orbits
import Grounding.Proofs.Value.Reordering

/-!
# Ascents

Numbers, texts and lists rise with each move up, and so do sets and maps if their members or keys
do. A set then always gains a member, since a search that comes to higher and higher values does not
come back to one; and it is not stopped before, since there are only so many members to pass. So no
number of moves leads from a value of such a type back to it.
-/

namespace Grounding

open Synthesis Outcome Value

/-- Whether the values of a type rise with each move up. -/
def Descriptor.isEndless : Descriptor → Bool
  | primitive p => p.scalar == .integral || p.scalar == .text
  | external _ => false
  | list _ => true
  | set e => e.isEndless
  | map k _ => k.isEndless
  | pair a b => a.isEndless || b.isEndless

/-- Whether the values of a type are lists, sets or maps. -/
def Descriptor.isContainer : Descriptor → Bool
  | list _ | set _ | map _ _ => true
  | primitive _ | external _ | pair _ _ => false

/-- How high a value of a type is: a number by itself, and a text or a container by its length. A
pair is as high as its first component, unless that does not rise. -/
def Descriptor.height : Descriptor → Value → ℤ
  | primitive _, .int n => n
  | primitive _, .text s => s.length
  | list _, .list xs => xs.length
  | set _, .set xs => xs.length
  | map _ _, .map es => es.length
  | pair a b, .pair x y => if a.isEndless then a.height x else b.height y
  | _, _ => 0

/-- What a container becomes when it gains an element, a member or an entry. What it has stays in
its place, and the new member or key is none of those. -/
inductive Value.GainsOne : Value → Value → Prop
  | list {xs : List Value} {x : Value} : GainsOne (.list xs) (.list (xs ++ [x]))
  | set {xs : List Value} {x : Value} : x.isAmong xs = false →
      GainsOne (.set xs) (.set (xs ++ [x]))
  | map {es : List (Value × Value)} {e : Value × Value} :
      e.1.isAmong (es.map Prod.fst) = false → GainsOne (.map es) (.map (es ++ [e]))

/-! ### Heights -/

theorem Descriptor.height_eq_of_same {d : Descriptor} {x y : Value} (hx : x.Inhabits d)
    (hy : y.Inhabits d) (h : same x y = true) : d.height x = d.height y := by
  induction hx generalizing y with
  | @primitive p x hp =>
    cases hy with
    | primitive hq =>
      unfold Primitive.Admits at hp hq
      generalize p.scalar = k at hp hq
      cases hp <;> cases hq <;> simp_all [same, samePlace_int, height]
  | entity name type =>
    cases hy
    rfl
  | list _ _ =>
    cases hy
    simp only [same, sameItems_iff] at h
    simp only [height, h.length_eq]
  | set _ _ _ =>
    cases hy
    simp only [same, Bool.and_eq_true, beq_iff_eq] at h
    simp only [height, h.1]
  | map _ _ _ _ _ =>
    cases hy
    simp only [same, Bool.and_eq_true, beq_iff_eq] at h
    simp only [height, h.1]
  | pair _ _ iha ihb =>
    cases hy with
    | pair hya hyb =>
      simp only [same, components?, Bool.and_eq_true] at h
      simp only [height, iha hya h.1, ihb hyb h.2]

theorem Descriptor.height_eq_of_reordered {d : Descriptor} {x y : Value} (h : x.Reordered y) :
    d.height x = d.height y := by
  induction d generalizing x y with
  | primitive p => cases h <;> rfl
  | external type => cases h <;> rfl
  | list e _ =>
    cases h with
    | list hitems => simp only [height, hitems.length_eq]
    | _ => rfl
  | set e _ =>
    cases h with
    | set hperm => simp only [height, hperm.length_eq]
    | _ => rfl
  | map k v _ _ =>
    cases h with
    | @map es fs hkeys _ =>
      have hlength : es.length = fs.length := by simpa using congrArg List.length hkeys
      simp only [height, hlength]
    | _ => rfl
  | pair a b iha ihb =>
    cases h with
    | pair hx hy => simp only [height, iha hx, ihb hy]
    | _ => rfl

namespace Synthesis

/-! ### Searches that rise -/

section

variable {σ : Type} {P : σ → Prop} {key : σ → Value} {step : σ → Except Fault σ} {d : Descriptor}
  {s : σ}

/-- If each move from a state makes its key higher, a search does not end with nothing: it does not
come back to a key, and there are as many moves as keys that it can pass. -/
theorem escape_ne_none (h : KeepsKeys P key step d)
    (hrises : ∀ s t, P s → step s = .ok t → d.height (key s) < d.height (key t)) {x : Value}
    {others visited : List Value} {moves : ℕ} (hs : P s) (hx : x.Inhabits d)
    (hothers : ∀ y ∈ others, y.Inhabits d) (hmet : Met d others visited)
    (hbelow : ∀ y ∈ visited ++ [x], d.height y ≤ d.height (key s))
    (hmoves : others.length < moves + visited.length) :
    escape key step (x :: others) moves (visited ++ [x]) s ≠ .ok .none := by
  induction moves generalizing visited s with
  | zero =>
    have hle := hmet.length_le h.hashable hothers
    omega
  | succ moves ih =>
    intro hescape
    rw [escape] at hescape
    obtain ⟨t, ht, hescape⟩ := bind_eq_ok_iff.1 hescape
    obtain ⟨_, -, hescape⟩ := bind_eq_ok_iff.1 hescape
    have hPt := h.keeps s t hs ht
    have hkey := h.inhabits t hPt
    have hlt := hrises s t hs ht
    -- the new key is higher than every key that has been met, so it equals none of them
    have hnew : (key t).isAmong (visited ++ [x]) = false := by
      rw [← Bool.not_eq_true, isAmong_iff]
      rintro ⟨y, hy, hsame⟩
      have hyd : y.Inhabits d := by
        rcases List.mem_append.1 hy with hy | hy
        · exact hmet.inhabits y hy
        · exact List.mem_singleton.1 hy ▸ hx
      have hheight := Descriptor.height_eq_of_same hkey hyd hsame
      have hle := hbelow y hy
      omega
    rw [hnew] at hescape
    split at hescape
    · cases hescape
    · next hmem =>
      simp only [Bool.not_eq_true', Bool.not_eq_false] at hmem
      refine ih hPt (hmet.cons_of_new hkey hmem hnew) (List.forall_mem_cons.2 ⟨le_refl _, ?_⟩)
        (by rw [List.length_cons]; omega) hescape
      exact fun y hy => (hbelow y hy).trans hlt.le

end

/-! ### Containers -/

theorem exists_of_growSet {default : Except Fault Value} {step : Value → Except Fault Value}
    {xs ys : List Value}
    (hfinds : ∀ x rest, xs = x :: rest → escape id step xs xs.length [x] x ≠ .ok .none)
    (h : growSet default step xs = .ok ys) : ∃ y, y.isAmong xs = false ∧ ys = xs ++ [y] := by
  unfold growSet at h
  split at h
  · obtain ⟨x, -, h⟩ := bind_eq_ok_iff.1 h
    obtain ⟨_, -, h⟩ := bind_eq_ok_iff.1 h
    obtain rfl := pure_eq_ok_iff.1 h
    exact ⟨x, rfl, rfl⟩
  · next x rest =>
    obtain ⟨found, hfound, h⟩ := bind_eq_ok_iff.1 h
    cases found with
    | none => exact absurd hfound (hfinds x rest rfl)
    | some y =>
      obtain rfl := pure_eq_ok_iff.1 h
      have hfree := (escape_ok (P := fun _ => True) (fun _ _ _ _ => trivial) trivial hfound).2.2
      exact ⟨y, hfree, rfl⟩

theorem exists_of_growMap {defaultKey defaultItem : Except Fault Value}
    {moveKey moveItem : Value → Except Fault Value} {es fs : List (Value × Value)}
    (hfinds : ∀ e rest, es = e :: rest → escape Prod.fst (moveEntry moveKey moveItem)
      (es.map Prod.fst) es.length [e.1] e ≠ .ok .none)
    (h : growMap defaultKey defaultItem moveKey moveItem es = .ok fs) :
    ∃ f, f.1.isAmong (es.map Prod.fst) = false ∧ fs = es ++ [f] := by
  unfold growMap at h
  split at h
  · obtain ⟨key, -, h⟩ := bind_eq_ok_iff.1 h
    obtain ⟨item, -, h⟩ := bind_eq_ok_iff.1 h
    obtain ⟨_, -, h⟩ := bind_eq_ok_iff.1 h
    obtain rfl := pure_eq_ok_iff.1 h
    exact ⟨(key, item), rfl, rfl⟩
  · next e rest =>
    obtain ⟨found, hfound, h⟩ := bind_eq_ok_iff.1 h
    cases found with
    | none => exact absurd hfound (hfinds e rest rfl)
    | some f =>
      obtain rfl := pure_eq_ok_iff.1 h
      have hfree := (escape_ok (P := fun _ => True) (fun _ _ _ _ => trivial) trivial hfound).2.2
      exact ⟨f, hfree, rfl⟩

/-- Whether each move up makes the values of a type higher. -/
def Rises (d : Descriptor) : Prop :=
  ∀ x y, x.Inhabits d → Model.move .up d x = .ok y → d.height x < d.height y

variable {d e k v : Descriptor} {x y : Value}

theorem gainsOne_list {xs : List Value} (h : Model.move .up (.list e) (.list xs) = .ok y) :
    GainsOne (.list xs) y := by
  rw [Model.move, move_list_up] at h
  obtain ⟨ys, hys, rfl⟩ := map_eq_ok_iff.1 h
  unfold growList at hys
  split at hys
  · obtain ⟨z, -, rfl⟩ := map_eq_ok_iff.1 hys
    exact .list
  · next hnone =>
    obtain ⟨z, -, rfl⟩ := map_eq_ok_iff.1 hys
    rw [List.getLast?_eq_none_iff.1 hnone]
    show GainsOne (.list []) (.list ([] ++ [z]))
    exact .list

theorem gainsOne_set {xs : List Value} (hrises : Rises e) (hset : (set xs).Inhabits (.set e))
    (h : Model.move .up (.set e) (.set xs) = .ok y) : GainsOne (.set xs) y := by
  cases hset with
  | set hxs hdistinct =>
    rw [Model.move, move_set_up e hdistinct] at h
    obtain ⟨ys, hys, rfl⟩ := map_eq_ok_iff.1 h
    have hfinds : ∀ x rest, xs = x :: rest →
        escape id (Model.move .up e) xs xs.length [x] x ≠ .ok .none := by
      rintro x rest rfl
      rw [List.forall_mem_cons] at hxs
      have hkeeps := keepsKeys_set hxs.1 (hdistinct.hashable x List.mem_cons_self)
      exact escape_ne_none hkeeps hrises hxs.1 hxs.1 hxs.2 met_nil
        (List.forall_mem_singleton.2 (le_refl _)) (Nat.lt_succ_self _)
    obtain ⟨z, hfree, rfl⟩ := exists_of_growSet hfinds hys
    exact .set hfree

theorem gainsOne_map {es : List (Value × Value)} (hrises : Rises k)
    (hmap : (map es).Inhabits (.map k v)) (h : Model.move .up (.map k v) (.map es) = .ok y) :
    GainsOne (.map es) y := by
  cases hmap with
  | map hkeys hitems hdistinct =>
    rw [Model.move, move_map_up] at h
    obtain ⟨fs, hfs, rfl⟩ := map_eq_ok_iff.1 h
    have hfinds : ∀ e rest, es = e :: rest →
        escape Prod.fst (moveEntry (Model.move .up k) (Model.move .up v)) (es.map Prod.fst)
          es.length [e.1] e ≠ .ok .none := by
      rintro e rest rfl
      rw [List.forall_mem_cons] at hkeys hitems
      have hkeeps := keepsKeys_map (v := v) hkeys.1
        (hdistinct.hashable e.1 (List.mem_map_of_mem List.mem_cons_self))
      have hrisesKey : ∀ g g' : Value × Value, g.1.Inhabits k ∧ g.2.Inhabits v →
          moveEntry (Model.move .up k) (Model.move .up v) g = .ok g' →
            k.height g.1 < k.height g'.1 :=
        fun g g' hg h => hrises g.1 g'.1 hg.1 (moveEntry_eq_ok_iff.1 h).1
      exact escape_ne_none hkeeps hrisesKey ⟨hkeys.1, hitems.1⟩ hkeys.1
        (List.forall_mem_map.2 hkeys.2) met_nil (List.forall_mem_singleton.2 (le_refl _))
        (by simp)
    obtain ⟨f, hfree, rfl⟩ := exists_of_growMap hfinds hfs
    exact .map hfree

theorem height_lt_of_gainsOne (hd : d.isContainer = true) (hx : x.Inhabits d)
    (h : x.GainsOne y) : d.height x < d.height y := by
  cases hx with
  | list _ =>
    cases h
    simp [Descriptor.height]
  | set _ _ =>
    cases h
    simp [Descriptor.height]
  | map _ _ _ =>
    cases h
    simp [Descriptor.height]
  | primitive _ => cases hd
  | entity _ _ => cases hd
  | pair _ _ => cases hd

/-! ### One move -/

theorem height_lt_of_movePrimitive {p : Primitive} (hd : (Descriptor.primitive p).isEndless = true)
    (hx : p.Admits x) (h : movePrimitive .up p x = .ok y) :
    (Descriptor.primitive p).height x < (Descriptor.primitive p).height y := by
  unfold Primitive.Admits at hx
  unfold movePrimitive at h
  unfold Descriptor.isEndless at hd
  generalize p.scalar = k at hx h hd
  cases hx with
  | text s =>
    obtain rfl := Except.ok.inj h
    have hsuffix : 0 < textSuffix.length := by decide
    simp only [Descriptor.height, String.length_append]
    omega
  | integral n =>
    obtain rfl := Except.ok.inj h
    exact Int.lt_succ n
  | character c => cases hd
  | boolean b => cases hd
  | floating z => cases hd
  | nan mark => cases hd

theorem rises_of_isEndless (hd : d.isEndless = true) : Rises d := by
  induction d with
  | primitive p =>
    intro x y hx h
    cases hx with
    | primitive hp =>
      rw [Model.move, move, checked_eq] at h
      exact height_lt_of_movePrimitive hd hp h
  | external type => cases hd
  | list e _ =>
    intro x y hx h
    cases hx with
    | list hxs => exact height_lt_of_gainsOne rfl (.list hxs) (gainsOne_list h)
  | set e ih =>
    intro x y hx h
    cases hx with
    | set hxs hdistinct =>
      have hset := Inhabits.set hxs hdistinct
      exact height_lt_of_gainsOne rfl hset (gainsOne_set (ih hd) hset h)
  | map k v ihk _ =>
    intro x y hx h
    cases hx with
    | map hkeys hitems hdistinct =>
      have hmap := Inhabits.map hkeys hitems hdistinct
      exact height_lt_of_gainsOne rfl hmap (gainsOne_map (ihk hd) hmap h)
  | pair a b iha ihb =>
    intro x y hx h
    cases hx with
    | pair hfirst hsecond =>
      rw [Model.move, move_pair] at h
      obtain ⟨first, hmoveFirst, h⟩ := bind_eq_ok_iff.1 h
      obtain ⟨second, hmoveSecond, rfl⟩ := map_eq_ok_iff.1 h
      rw [Descriptor.height, Descriptor.height]
      -- the height is that of the component that rises
      cases ha : a.isEndless with
      | true => exact iha ha _ _ hfirst hmoveFirst
      | false =>
        rw [Descriptor.isEndless, ha, Bool.false_or] at hd
        exact ihb hd _ _ hsecond hmoveSecond

theorem gainsOne_of_move (hd : d.isEndless = true) (hcontainer : d.isContainer = true)
    (hx : x.Inhabits d) (h : Model.move .up d x = .ok y) : x.GainsOne y := by
  cases hx with
  | list _ => exact gainsOne_list h
  | @set _ e hxs hdistinct =>
    have hrises : Rises e := rises_of_isEndless hd
    exact gainsOne_set hrises (.set hxs hdistinct) h
  | @map _ k _ hkeys hitems hdistinct =>
    have hrises : Rises k := rises_of_isEndless hd
    exact gainsOne_map hrises (.map hkeys hitems hdistinct) h
  | primitive _ => cases hcontainer
  | entity _ _ => cases hcontainer
  | pair _ _ => cases hcontainer

/-! ### Runs -/

/-- The values that a number of moves up lead to from a value. Before each move, the members of sets
may come in another order. -/
inductive Climbs (d : Descriptor) (x : Value) : ℕ → Value → Prop
  | start : Climbs d x 0 x
  | move {n : ℕ} {y z w : Value} : Climbs d x n y → y.Reordered z →
      Model.move .up d z = .ok w → Climbs d x (n + 1) w

theorem Climbs.reached {n : ℕ} (h : Climbs d x n y) : Reached d x y := by
  induction h with
  | start => exact .start
  | move _ hreordered hmove ih => exact .move ih hreordered hmove

theorem Climbs.height_add_le {n : ℕ} (hd : d.isEndless = true) (hx : x.Inhabits d)
    (h : Climbs d x n y) : d.height x + n ≤ d.height y := by
  induction h with
  | start => simp
  | move hy hreordered hmove ih =>
    have hinhabits := (hy.reached.inhabits hx).reordered hreordered
    have hsame := Descriptor.height_eq_of_reordered (d := d) hreordered
    have hlt := rises_of_isEndless hd _ _ hinhabits hmove
    push_cast
    omega

theorem Climbs.height_ne {n : ℕ} (hd : d.isEndless = true) (hx : x.Inhabits d)
    (h : Climbs d x n y) (hn : 0 < n) : d.height y ≠ d.height x := by
  have hle := h.height_add_le hd hx
  omega

/-- Moves up never lead back to a value of an endless type. If it is a container, each of them adds
one element, member or entry after those that are there. -/
theorem climbs_never_return (hd : d.isEndless = true) (hx : x.Inhabits d) :
    (∀ n y, 0 < n → Climbs d x n y → same y x = false ∧ ¬ x.Reordered y) ∧
      ∀ y, d.isContainer = true → Model.move .up d x = .ok y → x.GainsOne y := by
  constructor
  · intro n y hn hclimbs
    have hheight := hclimbs.height_ne hd hx hn
    have hy := hclimbs.reached.inhabits hx
    constructor
    · rw [← Bool.not_eq_true]
      intro hsame
      exact hheight (Descriptor.height_eq_of_same hy hx hsame)
    · intro hreordered
      exact hheight (Descriptor.height_eq_of_reordered hreordered).symm
  · intro y hcontainer h
    exact gainsOne_of_move hd hcontainer hx h

/-- The truth values of the members come back, but not the numbers beside them. The second move
starts from the member that is last before. -/
theorem climbs_never_return_pairs :
    Climbs (.set (.pair (.primitive .boolean) (.primitive .integer)))
        (.set [.pair (.bool true) (.int 1)]) 2
        (.set [.pair (.bool false) (.int 2), .pair (.bool true) (.int 1),
          .pair (.bool true) (.int 3)]) ∧
      same (.set [.pair (.bool false) (.int 2), .pair (.bool true) (.int 1),
          .pair (.bool true) (.int 3)]) (.set [.pair (.bool true) (.int 1)]) = false ∧
      GainsOne (.set [.pair (.bool true) (.int 1)])
        (.set [.pair (.bool true) (.int 1), .pair (.bool false) (.int 2)]) := by
  have hmade : Model.create (.set (.pair (.primitive .boolean) (.primitive .integer)))
      "[true=1]" = .ok (.set [.pair (.bool true) (.int 1)]) := by
    cbv
  have hfirst : Model.move .up (.set (.pair (.primitive .boolean) (.primitive .integer)))
      (.set [.pair (.bool true) (.int 1)]) =
        .ok (.set [.pair (.bool true) (.int 1), .pair (.bool false) (.int 2)]) := by
    cbv
  have hsecond : Model.move .up (.set (.pair (.primitive .boolean) (.primitive .integer)))
      (.set [.pair (.bool false) (.int 2), .pair (.bool true) (.int 1)]) =
        .ok (.set [.pair (.bool false) (.int 2), .pair (.bool true) (.int 1),
          .pair (.bool true) (.int 3)]) := by
    cbv
  have hclimbs := Climbs.move (.move .start (.refl _) hfirst) (.set (.swap _ _ [])) hsecond
  obtain ⟨hapart, hgains⟩ := climbs_never_return rfl (inhabits_of_create hmade)
  exact ⟨hclimbs, (hapart 2 _ (by decide) hclimbs).1, hgains _ rfl hfirst⟩

end Synthesis

end Grounding

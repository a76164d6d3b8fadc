import Grounding.Proofs.Synthesis.Soundness
import Grounding.Proofs.Value.Reordering
import Grounding.Synthesis.Advance
import Mathlib

/-!
# Moves stay within a type

The neighbour of a value of a type is a value of that type. So whatever moves reach from a value
that is made from a literal has the type that it was made for.
-/

namespace Grounding

open Synthesis Outcome Value

/-! ### Primitive types -/

theorem Primitive.admits_of_move {p : Primitive} {dir : Direction} {x y : Value} (hx : p.Admits x)
    (h : movePrimitive dir p x = .ok y) : p.Admits y := by
  unfold Admits at hx ⊢
  unfold movePrimitive at h
  generalize p.scalar = k at hx h ⊢
  cases hx with
  | text s =>
    cases dir with
    | up => exact Except.ok.inj h ▸ .text _
    | down => exact Except.ok.inj h ▸ .text _
  | character c =>
    simp only [moveCharacter, String.toList_singleton] at h
    cases dir with
    | up =>
      dsimp only at h
      split at h
      · exact Except.ok.inj h ▸ .character _
      · cases h
    | down =>
      dsimp only at h
      split at h
      · exact Except.ok.inj h ▸ .character _
      · split at h
        · exact Except.ok.inj h ▸ .character _
        · cases h
  | boolean b => exact Except.ok.inj h ▸ .boolean _
  | integral n => exact Except.ok.inj h ▸ .integral _
  | floating z => exact Except.ok.inj h ▸ .floating _
  | nan mark => exact Except.ok.inj h ▸ .floating _

namespace Synthesis

/-! ### Containers -/

variable {default : Except Fault Value} {step : Value → Except Fault Value}

theorem escape_ok {σ : Type} {P : σ → Prop} {key : σ → Value} {step : σ → Except Fault σ}
    {taken seen : List Value} {moves : Nat} {s t : σ}
    (hstep : ∀ s t, P s → step s = .ok t → P t) (hs : P s)
    (h : escape key step taken moves seen s = .ok (some t)) :
    P t ∧ (key t).isHashable = true ∧ (key t).isAmong taken = false := by
  induction moves generalizing seen s with
  | zero => cases h
  | succ moves ih =>
    rw [escape] at h
    obtain ⟨s', hs', h⟩ := bind_eq_ok_iff.1 h
    obtain ⟨_, hhash, h⟩ := bind_eq_ok_iff.1 h
    rw [checked_eq, requireHashable_eq_ok_iff] at hhash
    split at h
    · next hnone =>
      obtain rfl := Option.some.inj (Except.ok.inj h)
      exact ⟨hstep s s' hs hs', hhash, by simpa using hnone⟩
    · split at h
      · cases h
      · exact ih (hstep s s' hs hs') h

theorem growList_ok {P : Value → Prop} {xs ys : List Value}
    (hdefault : ∀ x, default = .ok x → P x) (hstep : ∀ x y, P x → step x = .ok y → P y)
    (hxs : ∀ x ∈ xs, P x) (h : growList default step xs = .ok ys) : ∀ y ∈ ys, P y := by
  unfold growList at h
  split at h
  · next x hlast =>
    obtain ⟨y, hy, rfl⟩ := map_eq_ok_iff.1 h
    rw [List.forall_mem_append, List.forall_mem_singleton]
    exact ⟨hxs, hstep x y (hxs x (List.mem_of_getLast? hlast)) hy⟩
  · obtain ⟨x, hx, rfl⟩ := map_eq_ok_iff.1 h
    rw [List.forall_mem_singleton]
    exact hdefault x hx

theorem growSet_ok {P : Value → Prop} {xs ys : List Value}
    (hdefault : ∀ x, default = .ok x → P x) (hstep : ∀ x y, P x → step x = .ok y → P y)
    (hxs : ∀ x ∈ xs, P x) (hdistinct : Distinct xs) (h : growSet default step xs = .ok ys) :
    (∀ y ∈ ys, P y) ∧ Distinct ys := by
  unfold growSet at h
  split at h
  · obtain ⟨x, hx, h⟩ := bind_eq_ok_iff.1 h
    obtain ⟨_, hhash, h⟩ := bind_eq_ok_iff.1 h
    rw [checked_eq, requireHashable_eq_ok_iff] at hhash
    obtain rfl := pure_eq_ok_iff.1 h
    exact ⟨List.forall_mem_singleton.2 (hdefault x hx), distinct_singleton hhash⟩
  · next x rest =>
    obtain ⟨found, hfound, h⟩ := bind_eq_ok_iff.1 h
    split at h
    · next y =>
      obtain rfl := pure_eq_ok_iff.1 h
      obtain ⟨hy, hhash, hnone⟩ := escape_ok hstep (hxs x List.mem_cons_self) hfound
      rw [List.forall_mem_append, List.forall_mem_singleton]
      exact ⟨⟨hxs, hy⟩, hdistinct.concat hhash hnone⟩
    · obtain rfl := pure_eq_ok_iff.1 h
      exact ⟨hxs, hdistinct⟩

theorem growMap_ok {P Q : Value → Prop} {defaultKey defaultItem : Except Fault Value}
    {moveKey moveItem : Value → Except Fault Value} {es fs : List (Value × Value)}
    (hdefault : ∀ k x, defaultKey = .ok k → defaultItem = .ok x → P k ∧ Q x)
    (hmoveKey : ∀ x y, P x → moveKey x = .ok y → P y)
    (hmoveItem : ∀ x y, Q x → moveItem x = .ok y → Q y)
    (hes : ∀ e ∈ es, P e.1 ∧ Q e.2) (hdistinct : Distinct (es.map Prod.fst))
    (h : growMap defaultKey defaultItem moveKey moveItem es = .ok fs) :
    (∀ f ∈ fs, P f.1 ∧ Q f.2) ∧ Distinct (fs.map Prod.fst) := by
  have hmove : ∀ e f : Value × Value, P e.1 ∧ Q e.2 → moveEntry moveKey moveItem e = .ok f →
      P f.1 ∧ Q f.2 := by
    intro e f he hf
    obtain ⟨k, hk, hf⟩ := bind_eq_ok_iff.1 hf
    obtain ⟨x, hx, rfl⟩ := map_eq_ok_iff.1 hf
    exact ⟨hmoveKey e.1 k he.1 hk, hmoveItem e.2 x he.2 hx⟩
  unfold growMap at h
  split at h
  · obtain ⟨k, hk, h⟩ := bind_eq_ok_iff.1 h
    obtain ⟨x, hx, h⟩ := bind_eq_ok_iff.1 h
    obtain ⟨_, hhash, h⟩ := bind_eq_ok_iff.1 h
    rw [checked_eq, requireHashable_eq_ok_iff] at hhash
    obtain rfl := pure_eq_ok_iff.1 h
    exact ⟨List.forall_mem_singleton.2 (hdefault k x hk hx), distinct_singleton hhash⟩
  · next e rest =>
    obtain ⟨found, hfound, h⟩ := bind_eq_ok_iff.1 h
    split at h
    · next f =>
      obtain rfl := pure_eq_ok_iff.1 h
      obtain ⟨hf, hhash, hnone⟩ := escape_ok hmove (hes e List.mem_cons_self) hfound
      rw [List.forall_mem_append, List.forall_mem_singleton, List.map_append]
      exact ⟨⟨hes, hf⟩, hdistinct.concat hhash hnone⟩
    · obtain rfl := pure_eq_ok_iff.1 h
      exact ⟨hes, hdistinct⟩

/-! ### One move -/

theorem memberList_set {xs : List Value} (h : Distinct xs) : memberList (.set xs) = .ok xs := by
  have hstep : ∀ (ys : List Value) (y : Value) (zs : List Value),
      (do y.requireHashable; return y.insertMember ys : Except Fault (List Value)) = .ok zs ↔
        ∃ x, (x = y ∧ y.isHashable = true) ∧ x.insertMember ys = zs := by
    intro ys y zs
    simp only [bind_eq_ok_iff, pure_eq_ok_iff, requireHashable_eq_ok_iff, exists_const, and_assoc,
      exists_eq_left]
  have hfold : xs.foldl (fun ys x => x.insertMember ys) [] = xs :=
    Value.set.inj (setOf_of_distinct h)
  refine (foldlM_eq_ok_iff hstep).2 ⟨xs, List.forall₂_same.2 fun x hx => ?_, hfold⟩
  exact ⟨rfl, h.hashable x hx⟩

section

variable {ext : Externals (Except Fault)}

theorem move_list_up (e : Descriptor) (xs : List Value) :
    move ext .up (.list e) (.list xs) = do
      return .list (← growList (createDefault ext e) (move ext .up e) xs) :=
  rfl

theorem move_list_down (e : Descriptor) (xs : List Value) :
    move ext .down (.list e) (.list xs) = .ok (.list xs.dropLast) :=
  rfl

theorem move_set_up (e : Descriptor) {xs : List Value} (h : Distinct xs) :
    move ext .up (.set e) (.set xs) = do
      return .set (← growSet (createDefault ext e) (move ext .up e) xs) := by
  rw [move, memberList_set h]
  rfl

theorem move_set_down (e : Descriptor) {xs : List Value} (h : Distinct xs) :
    move ext .down (.set e) (.set xs) = .ok (.set (xs.drop 1)) := by
  rw [move, memberList_set h]
  rfl

theorem move_map_up (k v : Descriptor) (es : List (Value × Value)) :
    move ext .up (.map k v) (.map es) = do
      let firstKey := do
        let key ← createDefault ext k
        checked key.requireHashable
        return key
      return .map (← growMap firstKey (createDefault ext v) (move ext .up k)
        (move ext .up v) es) :=
  rfl

theorem move_map_down (k v : Descriptor) (es : List (Value × Value)) :
    move ext .down (.map k v) (.map es) = .ok (.map (es.drop 1)) :=
  rfl

theorem move_pair (dir : Direction) (a b : Descriptor) (x y : Value) :
    move ext dir (.pair a b) (.pair x y) = do
      let first ← move ext dir a x
      return .pair first (← move ext dir b y) :=
  rfl

end

theorem inhabits_move {d : Descriptor} {dir : Direction} {x y : Value} (hx : x.Inhabits d)
    (h : move Model.externals dir d x = (.ok y : Except Fault Value)) :
    y.Inhabits d := by
  induction d generalizing x y with
  | primitive p =>
    cases hx with
    | primitive hp =>
      rw [move, checked_eq] at h
      exact .primitive (Primitive.admits_of_move hp h)
  | external type =>
    rw [← Except.ok.inj h]
    exact hx
  | list e ih =>
    cases hx with
    | list hxs =>
      cases dir with
      | up =>
        rw [move_list_up] at h
        obtain ⟨ys, hys, rfl⟩ := map_eq_ok_iff.1 h
        exact .list (growList_ok (fun z hz => inhabits_of_create hz) (fun z w => ih) hxs hys)
      | down =>
        rw [move_list_down] at h
        rw [← Except.ok.inj h]
        exact .list fun z hz => hxs z (List.dropLast_subset _ hz)
  | set e ih =>
    cases hx with
    | set hxs hdistinct =>
      cases dir with
      | up =>
        rw [move_set_up e hdistinct] at h
        obtain ⟨ys, hys, rfl⟩ := map_eq_ok_iff.1 h
        obtain ⟨hinhabits, hdistinct'⟩ :=
          growSet_ok (fun z hz => inhabits_of_create hz) (fun z w => ih) hxs hdistinct hys
        exact .set hinhabits hdistinct'
      | down =>
        rw [move_set_down e hdistinct] at h
        rw [← Except.ok.inj h]
        exact .set (fun z hz => hxs z (List.mem_of_mem_drop hz))
          (hdistinct.sublist (List.drop_sublist 1 _))
  | map k v ihk ihv =>
    cases hx with
    | @map es _ _ hk hv hdistinct =>
      cases dir with
      | up =>
        rw [move_map_up] at h
        obtain ⟨fs, hfs, rfl⟩ := map_eq_ok_iff.1 h
        have hdefault : ∀ key item : Value, (do
              let key ← createDefault Model.externals k
              checked key.requireHashable
              return key : Except Fault Value) = .ok key →
            createDefault Model.externals v = (.ok item : Except Fault Value) →
              key.Inhabits k ∧ item.Inhabits v := by
          intro key item hkey hitem
          obtain ⟨key', hmade, hkey⟩ := bind_eq_ok_iff.1 hkey
          obtain ⟨_, -, hkey⟩ := bind_eq_ok_iff.1 hkey
          obtain rfl := pure_eq_ok_iff.1 hkey
          exact ⟨inhabits_of_create hmade, inhabits_of_create hitem⟩
        obtain ⟨hinhabits, hdistinct'⟩ := growMap_ok hdefault (fun z w => ihk) (fun z w => ihv)
          (fun e he => ⟨hk e he, hv e he⟩) hdistinct hfs
        exact .map (fun f hf => (hinhabits f hf).1) (fun f hf => (hinhabits f hf).2) hdistinct'
      | down =>
        rw [move_map_down] at h
        rw [← Except.ok.inj h]
        exact .map (fun e he => hk e (List.mem_of_mem_drop he))
          (fun e he => hv e (List.mem_of_mem_drop he))
          (hdistinct.sublist ((List.drop_sublist 1 es).map Prod.fst))
  | pair a b iha ihb =>
    cases hx with
    | pair ha hb =>
      rw [move_pair] at h
      obtain ⟨first, hfirst, h⟩ := bind_eq_ok_iff.1 h
      obtain ⟨second, hsecond, rfl⟩ := map_eq_ok_iff.1 h
      exact .pair (iha ha hfirst) (ihb hb hsecond)

/-! ### Runs -/

/-- The values that moves in either direction reach from a value. Before each move, the members of
sets may come in another order. -/
inductive Reached (d : Descriptor) (x : Value) : Value → Prop
  | start : Reached d x x
  | move {y z w : Value} {dir : Direction} : Reached d x y → y.Reordered z →
      move Model.externals dir d z = (.ok w : Except Fault Value) → Reached d x w

theorem Reached.inhabits {d : Descriptor} {x y : Value} (hx : x.Inhabits d) (h : Reached d x y) :
    y.Inhabits d := by
  induction h with
  | start => exact hx
  | move _ hreordered hmove ih => exact inhabits_move (ih.reordered hreordered) hmove

/-- Whatever moves reach from a value that is made from a literal in a model has the type that the
value was made for. -/
theorem inhabits_of_reached {d : Descriptor} {literal : Option String} {x y : Value}
    (h : Model.create d (literal.getD "") = .ok x) (hy : Reached d x y) : y.Inhabits d :=
  hy.inhabits (inhabits_of_create h)

/-- A move up adds a key whose set has the number 6, since that set is gone through from the number
5; a move down then leaves nothing but that key. -/
theorem inhabits_of_reached_map :
    Model.create (.map (.primitive .character) (.set (.primitive .integer)))
        ((some "\x7bx=[3, 5]\x7d").getD "") = .ok (map [(text "x", set [int 3, int 5])]) ∧
      Reached (.map (.primitive .character) (.set (.primitive .integer)))
        (map [(text "x", set [int 3, int 5])]) (map [(text "y", set [int 5, int 3, int 6])]) ∧
      (map [(text "y", set [int 5, int 3, int 6])]).Inhabits
        (.map (.primitive .character) (.set (.primitive .integer))) := by
  have hmade : Model.create (.map (.primitive .character) (.set (.primitive .integer)))
      ((some "\x7bx=[3, 5]\x7d").getD "") = .ok (map [(text "x", set [int 3, int 5])]) := by
    cbv
  have hreordered : (map [(text "x", set [int 3, int 5])]).Reordered
      (map [(text "x", set [int 5, int 3])]) :=
    .map rfl (.cons (.set (.swap _ _ [])) .nil)
  have hreached : Reached (.map (.primitive .character) (.set (.primitive .integer)))
      (map [(text "x", set [int 3, int 5])]) (map [(text "y", set [int 5, int 3, int 6])]) := by
    have hup : Reached (.map (.primitive .character) (.set (.primitive .integer)))
        (map [(text "x", set [int 3, int 5])])
        (map [(text "x", set [int 5, int 3]), (text "y", set [int 5, int 3, int 6])]) := by
      have hmove : move Model.externals .up
          (.map (.primitive .character) (.set (.primitive .integer)))
          (map [(text "x", set [int 5, int 3])]) = (.ok (map
            [(text "x", set [int 5, int 3]), (text "y", set [int 5, int 3, int 6])]) :
              Except Fault Value) := by
        cbv
      exact .move .start hreordered hmove
    exact .move hup (.refl _) (move_map_down _ _ _)
  exact ⟨hmade, hreached, inhabits_of_reached hmade hreached⟩

end Synthesis

end Grounding

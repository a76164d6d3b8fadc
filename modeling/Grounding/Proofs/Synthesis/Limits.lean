import Grounding.Proofs.Synthesis.Search

/-!
# Where moves end

A move from a value of a type ends with a fault in two kinds of place: at the ends of the range of
characters, and at an empty set or map whose members or keys would have no hash. `NoNeighbour`
traces each fault to such a place, through the elements of a list, the components of a pair and the
members that a search comes to, and `move_eq_error_iff` says that these are all the faults there
are. None of them is one of the causes that concern what was asked for.
-/

namespace Grounding

open Synthesis Outcome

abbrev Model.move (dir : Direction) (d : Descriptor) (x : Value) : Except Fault Value :=
  Synthesis.move Model.externals dir d x

/-- The type that keeps the values of a type out of sets, if there is one. -/
def Descriptor.unhashable? : Descriptor → Option String
  | primitive _ | external _ => none
  | list _ => some "list"
  | set _ => some "set"
  | map _ _ => some "dict"
  | pair a b => a.unhashable?.or b.unhashable?

theorem Descriptor.isHashable_eq (d : Descriptor) : d.isHashable = d.unhashable?.isNone := by
  induction d with
  | pair a b iha ihb => rw [isHashable, unhashable?, iha, ihb, Option.isNone_or]
  | _ => rfl

/-- Whether no value of a type is at an end: no characters occur, and whatever is the member of a
set or the key of a map may be one. -/
def Descriptor.isBoundless : Descriptor → Bool
  | primitive p => p.scalar != .character
  | external _ => true
  | list e => e.isBoundless
  | set e => e.isHashable && e.isBoundless
  | map k v => k.isHashable && k.isBoundless && v.isBoundless
  | pair a b => a.isBoundless && b.isBoundless

theorem Value.unhashable?_of_inhabits {d : Descriptor} {x : Value} (h : x.Inhabits d) :
    x.unhashable? = d.unhashable? := by
  induction h with
  | primitive hp => exact Option.isNone_iff_eq_none.1 (isHashable_of_admits hp)
  | entity name type => rfl
  | list _ _ => rfl
  | set _ _ _ => rfl
  | map _ _ _ _ _ => rfl
  | pair _ _ iha ihb => rw [Value.unhashable?, Descriptor.unhashable?, iha, ihb]

theorem Value.isHashable_of_unhashable? {d : Descriptor} {x : Value} (hx : x.Inhabits d)
    (hd : d.unhashable? = Option.none) : x.isHashable = true := by
  rw [Value.isHashable_of_inhabits hx, Descriptor.isHashable_eq, hd]
  rfl

namespace Synthesis

/-! ### Characters -/

theorem nextChar?_eq_none_iff {c : Char} : nextChar? c = none ↔ c.toNat = 0x10ffff := by
  have hvalid : c.toNat < 0xd800 ∨ 0xdfff < c.toNat ∧ c.toNat < 0x110000 := c.valid
  unfold nextChar?
  by_cases hgap : c.toNat = 0xd7ff
  · have hnext : (0xe000).isValidChar := by decide
    simp [hgap, hnext]
  · simp [hgap, Nat.isValidChar]
    omega

theorem previousChar?_eq_none_iff {c : Char} : previousChar? c = none ↔ c.toNat = 0 := by
  unfold previousChar?
  by_cases hzero : c.toNat = 0 <;> simp [hzero]

theorem moveCharacter_eq_error_iff {dir : Direction} {c : Char} {f : Fault} :
    moveCharacter dir (.text (String.singleton c)) = .error f ↔
      f = .noCharacter ∧ (dir = .up ∧ c.toNat = 0x10ffff ∨ dir = .down ∧ c.toNat = 0) := by
  simp only [moveCharacter, String.toList_singleton]
  cases dir with
  | up =>
    rw [← nextChar?_eq_none_iff]
    cases hnext : nextChar? c <;> simp [hnext, eq_comm]
  | down =>
    rw [← previousChar?_eq_none_iff]
    by_cases hfloor : c = characterFloor
    · have hprevious : previousChar? c ≠ none := by
        rw [hfloor]
        decide
      simp [hprevious, beq_iff_eq.2 hfloor]
    · have hbeq := beq_eq_false_iff_ne.2 hfloor
      cases hprevious : previousChar? c <;> simp [hprevious, hbeq, eq_comm]

/-! ### Containers -/

theorem requireHashable_eq_error_iff {x : Value} {f : Fault} :
    x.requireHashable = .error f ↔
      ∃ type, x.unhashable? = some type ∧ f = .mismatch (.unhashable type) := by
  unfold Value.requireHashable
  cases x.unhashable? <;> simp [eq_comm]

theorem exists_default (d : Descriptor) :
    ∃ x, createDefault Model.externals d = (.ok x : Except Fault Value) ∧ x.Inhabits d := by
  have hcreate : ∃ x, createDefault Model.externals d = (.ok x : Except Fault Value) := by
    induction d with
    | primitive p => exact ⟨_, rfl⟩
    | external type => exact ⟨_, rfl⟩
    | list e => exact ⟨_, rfl⟩
    | set e => exact ⟨_, rfl⟩
    | map k v => exact ⟨_, rfl⟩
    | pair a b iha ihb =>
      obtain ⟨x, hx⟩ := iha
      obtain ⟨y, hy⟩ := ihb
      exact ⟨.pair x y, create_pair_eq_ok_iff.2 ⟨[], [], rfl, x, y, hx, hy, rfl⟩⟩
  obtain ⟨x, hx⟩ := hcreate
  exact ⟨x, hx, inhabits_of_create hx⟩

variable {default : Except Fault Value} {step : Value → Except Fault Value} {f : Fault}

theorem growList_eq_error_iff {x : Value} {xs : List Value} (hdefault : default = .ok x) :
    growList default step xs = .error f ↔ ∃ y, xs.getLast? = some y ∧ step y = .error f := by
  unfold growList
  cases xs.getLast? with
  | none =>
    rw [hdefault]
    exact ⟨fun h => (nomatch h), fun ⟨_, h, _⟩ => (nomatch h)⟩
  | some y =>
    rw [map_eq_error_iff]
    simp

theorem growSet_nil_eq_error_iff {x : Value} (hdefault : default = .ok x) :
    growSet default step [] = .error f ↔ x.requireHashable = .error f := by
  simp [growSet, hdefault, bind_eq_error_iff, checked_eq, pure, Except.pure]

theorem growSet_cons_eq_error_iff {x : Value} {xs : List Value} :
    growSet default step (x :: xs) = .error f ↔
      escape id step (x :: xs) (x :: xs).length [x] x = .error f := by
  simp only [growSet, bind_eq_error_iff]
  refine or_iff_left ?_
  rintro ⟨_ | y, -, h⟩
  · cases h
  · cases h

theorem growMap_nil_eq_error_iff {defaultKey : Except Fault Value} {key item : Value}
    {moveKey moveItem : Value → Except Fault Value} (hkey : defaultKey = .ok key)
    (hitem : default = .ok item) :
    growMap (do let k ← defaultKey; checked k.requireHashable; return k) default moveKey moveItem
      [] = .error f ↔ key.requireHashable = .error f := by
  cases hhash : key.requireHashable <;>
    simp [growMap, hkey, hitem, hhash, bind_eq_error_iff, checked_eq, pure, Except.pure]

theorem growMap_cons_eq_error_iff {defaultKey : Except Fault Value} {e : Value × Value}
    {es : List (Value × Value)} {moveKey moveItem : Value → Except Fault Value} :
    growMap defaultKey default moveKey moveItem (e :: es) = .error f ↔
      escape Prod.fst (moveEntry moveKey moveItem) ((e :: es).map Prod.fst) (e :: es).length
        [e.1] e = .error f := by
  simp only [growMap, bind_eq_error_iff]
  refine or_iff_left ?_
  rintro ⟨_ | g, -, h⟩
  · cases h
  · cases h

/-! ### Faults of a move -/

/-- A value of a type has no neighbour in a direction, for which a move ends with a fault. -/
inductive NoNeighbour : Direction → Descriptor → Value → Fault → Prop
  | afterLast {p : Primitive} {c : Char} : p.scalar = .character → c.toNat = 0x10ffff →
      NoNeighbour .up (.primitive p) (.text (String.singleton c)) .noCharacter
  | beforeFirst {p : Primitive} {c : Char} : p.scalar = .character → c.toNat = 0 →
      NoNeighbour .down (.primitive p) (.text (String.singleton c)) .noCharacter
  | element {e : Descriptor} {xs : List Value} {x : Value} {f : Fault} :
      xs.getLast? = some x → NoNeighbour .up e x f → NoNeighbour .up (.list e) (.list xs) f
  | emptySet {e : Descriptor} {type : String} : e.unhashable? = some type →
      NoNeighbour .up (.set e) (.set []) (.mismatch (.unhashable type))
  | member {e : Descriptor} {x y : Value} {xs : List Value} {f : Fault} :
      Leads id (Model.move .up e) (x :: xs) [x] x y → NoNeighbour .up e y f →
        NoNeighbour .up (.set e) (.set (x :: xs)) f
  | emptyMap {k v : Descriptor} {type : String} : k.unhashable? = some type →
      NoNeighbour .up (.map k v) (.map []) (.mismatch (.unhashable type))
  | key {k v : Descriptor} {e g : Value × Value} {es : List (Value × Value)} {f : Fault} :
      Leads Prod.fst (moveEntry (Model.move .up k) (Model.move .up v)) ((e :: es).map Prod.fst)
        [e.1] e g → NoNeighbour .up k g.1 f → NoNeighbour .up (.map k v) (.map (e :: es)) f
  | item {k v : Descriptor} {e g : Value × Value} {es : List (Value × Value)} {next : Value}
      {f : Fault} :
      Leads Prod.fst (moveEntry (Model.move .up k) (Model.move .up v)) ((e :: es).map Prod.fst)
        [e.1] e g → Model.move .up k g.1 = .ok next → NoNeighbour .up v g.2 f →
          NoNeighbour .up (.map k v) (.map (e :: es)) f
  | first {dir : Direction} {a b : Descriptor} {x y : Value} {f : Fault} :
      NoNeighbour dir a x f → NoNeighbour dir (.pair a b) (.pair x y) f
  | second {dir : Direction} {a b : Descriptor} {x y next : Value} {f : Fault} :
      Model.move dir a x = .ok next → NoNeighbour dir b y f →
        NoNeighbour dir (.pair a b) (.pair x y) f

theorem NoNeighbour.fault_eq {dir : Direction} {d : Descriptor} {x : Value} {f : Fault}
    (h : NoNeighbour dir d x f) : f = .noCharacter ∨ ∃ type, f = .mismatch (.unhashable type) := by
  induction h with
  | afterLast _ _ => exact .inl rfl
  | beforeFirst _ _ => exact .inl rfl
  | emptySet _ => exact .inr ⟨_, rfl⟩
  | emptyMap _ => exact .inr ⟨_, rfl⟩
  | element _ _ ih => exact ih
  | member _ _ ih => exact ih
  | key _ _ ih => exact ih
  | item _ _ _ ih => exact ih
  | first _ ih => exact ih
  | second _ _ ih => exact ih

section

variable {dir : Direction} {d e k v a b : Descriptor} {x y : Value}

theorem move_primitive_eq_error_iff {p : Primitive} (hx : p.Admits x) :
    Model.move dir (.primitive p) x = .error f ↔ NoNeighbour dir (.primitive p) x f := by
  have hkind := hx
  rw [Model.move, move, checked_eq]
  unfold Primitive.Admits at hkind
  unfold movePrimitive
  constructor
  · intro h
    cases hp : p.scalar <;> rw [hp] at hkind h
    case text => cases hkind; cases dir <;> cases h
    case boolean => cases h
    case integral => cases hkind; cases h
    case floating => cases hkind <;> cases h
    case character =>
      cases hkind with
      | character c =>
        obtain ⟨rfl, ⟨rfl, hc⟩ | ⟨rfl, hc⟩⟩ := moveCharacter_eq_error_iff.1 h
        · exact .afterLast hp hc
        · exact .beforeFirst hp hc
  · intro h
    cases h with
    | afterLast hp hc =>
      rw [hp]
      exact moveCharacter_eq_error_iff.2 ⟨rfl, .inl ⟨rfl, hc⟩⟩
    | beforeFirst hp hc =>
      rw [hp]
      exact moveCharacter_eq_error_iff.2 ⟨rfl, .inr ⟨rfl, hc⟩⟩

theorem moveEntry_eq_error_iff {moveKey moveItem : Value → Except Fault Value} {g : Value × Value} :
    moveEntry moveKey moveItem g = .error f ↔
      moveKey g.1 = .error f ∨ ∃ next, moveKey g.1 = .ok next ∧ moveItem g.2 = .error f := by
  rw [moveEntry, bind_eq_error_iff]
  exact or_congr_right (exists_congr fun next => and_congr_right fun _ => map_eq_error_iff)

theorem move_list_eq_error_iff {xs : List Value}
    (ih : ∀ x ∈ xs, Model.move dir e x = .error f ↔ NoNeighbour dir e x f) :
    Model.move dir (.list e) (.list xs) = .error f ↔ NoNeighbour dir (.list e) (.list xs) f := by
  cases dir with
  | up =>
    obtain ⟨z, hz, -⟩ := exists_default e
    rw [Model.move, move_list_up, map_eq_error_iff, growList_eq_error_iff hz]
    constructor
    · rintro ⟨y, hlast, hy⟩
      exact .element hlast ((ih y (List.mem_of_getLast? hlast)).1 hy)
    · rintro (_ | _ | ⟨hlast, hy⟩)
      exact ⟨_, hlast, (ih _ (List.mem_of_getLast? hlast)).2 hy⟩
  | down =>
    rw [Model.move, move_list_down]
    exact ⟨fun h => (nomatch h), fun h => (nomatch h)⟩

theorem keepsKeys_set {x : Value} (hx : x.Inhabits e) (hhash : x.isHashable = true) :
    KeepsKeys (fun y => y.Inhabits e) id (Model.move .up e) e where
  hashable := (Value.isHashable_of_inhabits hx).symm.trans hhash
  inhabits _ hy := hy
  keeps _ _ hy h := inhabits_move hy h

theorem keepsKeys_map {x : Value} (hx : x.Inhabits k) (hhash : x.isHashable = true) :
    KeepsKeys (fun g : Value × Value => g.1.Inhabits k ∧ g.2.Inhabits v) Prod.fst
      (moveEntry (Model.move .up k) (Model.move .up v)) k where
  hashable := (Value.isHashable_of_inhabits hx).symm.trans hhash
  inhabits _ hg := hg.1
  keeps := by
    intro g g' hg h
    obtain ⟨key, hkey, h⟩ := bind_eq_ok_iff.1 h
    obtain ⟨item, hitem, rfl⟩ := map_eq_ok_iff.1 h
    exact ⟨inhabits_move hg.1 hkey, inhabits_move hg.2 hitem⟩

theorem move_set_eq_error_iff {xs : List Value} (hxs : ∀ x ∈ xs, x.Inhabits e)
    (hdistinct : Value.Distinct xs)
    (ih : ∀ x, x.Inhabits e → (Model.move dir e x = .error f ↔ NoNeighbour dir e x f)) :
    Model.move dir (.set e) (.set xs) = .error f ↔ NoNeighbour dir (.set e) (.set xs) f := by
  cases dir with
  | down =>
    rw [Model.move, move_set_down e hdistinct]
    exact ⟨fun h => (nomatch h), fun h => (nomatch h)⟩
  | up =>
    rw [Model.move, move_set_up e hdistinct, map_eq_error_iff]
    cases xs with
    | nil =>
      obtain ⟨z, hz, hze⟩ := exists_default e
      rw [growSet_nil_eq_error_iff hz, requireHashable_eq_error_iff,
        Value.unhashable?_of_inhabits hze]
      constructor
      · rintro ⟨type, htype, rfl⟩
        exact .emptySet htype
      · rintro (_ | _ | _ | htype)
        exact ⟨_, htype, rfl⟩
    | cons x xs =>
      rw [List.forall_mem_cons] at hxs
      have hhash := hdistinct.hashable x List.mem_cons_self
      have hkeeps := keepsKeys_set hxs.1 hhash
      have hsearch : escape id (Model.move .up e) (x :: xs) (x :: xs).length [x] x = .error f ↔
          ∃ y, Leads id (Model.move .up e) (x :: xs) [x] x y ∧ Model.move .up e y = .error f :=
        escape_eq_error_iff hkeeps hxs.1 hxs.2 met_nil (by simp)
      rw [growSet_cons_eq_error_iff, hsearch]
      constructor
      · rintro ⟨y, hleads, hy⟩
        exact .member hleads ((ih y (hleads.keeps hkeeps hxs.1)).1 hy)
      · rintro (_ | _ | _ | _ | ⟨hleads, hy⟩)
        exact ⟨_, hleads, (ih _ (hleads.keeps hkeeps hxs.1)).2 hy⟩

theorem move_map_eq_error_iff {es : List (Value × Value)} (hk : ∀ e ∈ es, e.1.Inhabits k)
    (hv : ∀ e ∈ es, e.2.Inhabits v) (hdistinct : Value.Distinct (es.map Prod.fst))
    (ihk : ∀ x, x.Inhabits k → (Model.move dir k x = .error f ↔ NoNeighbour dir k x f))
    (ihv : ∀ x, x.Inhabits v → (Model.move dir v x = .error f ↔ NoNeighbour dir v x f)) :
    Model.move dir (.map k v) (.map es) = .error f ↔ NoNeighbour dir (.map k v) (.map es) f := by
  cases dir with
  | down =>
    rw [Model.move, move_map_down]
    exact ⟨fun h => (nomatch h), fun h => (nomatch h)⟩
  | up =>
    rw [Model.move, move_map_up, map_eq_error_iff]
    cases es with
    | nil =>
      obtain ⟨key, hkey, hkeyk⟩ := exists_default k
      obtain ⟨item, hitem, -⟩ := exists_default v
      rw [growMap_nil_eq_error_iff hkey hitem, requireHashable_eq_error_iff,
        Value.unhashable?_of_inhabits hkeyk]
      constructor
      · rintro ⟨type, htype, rfl⟩
        exact .emptyMap htype
      · rintro (_ | _ | _ | _ | _ | htype)
        exact ⟨_, htype, rfl⟩
    | cons e es =>
      rw [List.forall_mem_cons] at hk hv
      have hhash := hdistinct.hashable e.1 List.mem_cons_self
      have hkeeps := keepsKeys_map (v := v) hk.1 hhash
      have hothers : ∀ y ∈ es.map Prod.fst, y.Inhabits k := by
        rw [List.forall_mem_map]
        exact hk.2
      have hsearch : escape Prod.fst (moveEntry (Model.move .up k) (Model.move .up v))
            ((e :: es).map Prod.fst) (e :: es).length [e.1] e = .error f ↔
          ∃ g, Leads Prod.fst (moveEntry (Model.move .up k) (Model.move .up v))
              ((e :: es).map Prod.fst) [e.1] e g ∧
            moveEntry (Model.move .up k) (Model.move .up v) g = .error f :=
        escape_eq_error_iff hkeeps ⟨hk.1, hv.1⟩ hothers met_nil (by simp)
      rw [growMap_cons_eq_error_iff, hsearch]
      constructor
      · rintro ⟨g, hleads, hg⟩
        obtain ⟨hgk, hgv⟩ := hleads.keeps hkeeps ⟨hk.1, hv.1⟩
        rcases moveEntry_eq_error_iff.1 hg with hg | ⟨next, hnext, hg⟩
        · exact .key hleads ((ihk g.1 hgk).1 hg)
        · exact .item hleads hnext ((ihv g.2 hgv).1 hg)
      · intro h
        cases h with
        | key hleads hg =>
          obtain ⟨hgk, -⟩ := hleads.keeps hkeeps ⟨hk.1, hv.1⟩
          exact ⟨_, hleads, moveEntry_eq_error_iff.2 (.inl ((ihk _ hgk).2 hg))⟩
        | item hleads hnext hg =>
          obtain ⟨-, hgv⟩ := hleads.keeps hkeeps ⟨hk.1, hv.1⟩
          exact ⟨_, hleads, moveEntry_eq_error_iff.2 (.inr ⟨_, hnext, (ihv _ hgv).2 hg⟩)⟩

theorem move_pair_eq_error_iff (iha : Model.move dir a x = .error f ↔ NoNeighbour dir a x f)
    (ihb : Model.move dir b y = .error f ↔ NoNeighbour dir b y f) :
    Model.move dir (.pair a b) (.pair x y) = .error f ↔
      NoNeighbour dir (.pair a b) (.pair x y) f := by
  rw [Model.move, move_pair, bind_eq_error_iff]
  constructor
  · rintro (hx | ⟨next, hnext, hy⟩)
    · exact .first (iha.1 hx)
    · exact .second hnext (ihb.1 (map_eq_error_iff.1 hy))
  · intro h
    cases h with
    | first hx => exact .inl (iha.2 hx)
    | second hnext hy => exact .inr ⟨_, hnext, map_eq_error_iff.2 (ihb.2 hy)⟩

/-- A move from a value of a type ends with a fault exactly if the value has no neighbour. -/
theorem move_eq_error_iff (hx : x.Inhabits d) :
    Model.move dir d x = .error f ↔ NoNeighbour dir d x f := by
  induction d generalizing x with
  | primitive p =>
    cases hx with
    | primitive hp => exact move_primitive_eq_error_iff hp
  | external type => exact ⟨fun h => (nomatch h), fun h => (nomatch h)⟩
  | list e ih =>
    cases hx with
    | list hxs => exact move_list_eq_error_iff fun x hx => ih (hxs x hx)
  | set e ih =>
    cases hx with
    | set hxs hdistinct => exact move_set_eq_error_iff hxs hdistinct fun x => ih
  | map k v ihk ihv =>
    cases hx with
    | map hk hv hdistinct =>
      exact move_map_eq_error_iff hk hv hdistinct (fun x => ihk) fun x => ihv
  | pair a b iha ihb =>
    cases hx with
    | pair ha hb => exact move_pair_eq_error_iff (iha ha) (ihb hb)

/-! ### Types without ends -/

theorem NoNeighbour.isBoundless_eq_false (h : NoNeighbour dir d x f) : d.isBoundless = false := by
  induction h with
  | afterLast hp _ => simp [Descriptor.isBoundless, hp]
  | beforeFirst hp _ => simp [Descriptor.isBoundless, hp]
  | element _ _ ih => exact ih
  | emptySet htype => simp [Descriptor.isBoundless, Descriptor.isHashable_eq, htype]
  | emptyMap htype => simp [Descriptor.isBoundless, Descriptor.isHashable_eq, htype]
  | member _ _ ih => simp [Descriptor.isBoundless, ih]
  | key _ _ ih => simp [Descriptor.isBoundless, ih]
  | item _ _ _ ih => simp [Descriptor.isBoundless, ih]
  | first _ ih => simp [Descriptor.isBoundless, ih]
  | second _ _ ih => simp [Descriptor.isBoundless, ih]

theorem exists_neighbour (hd : d.isBoundless = true) (hx : x.Inhabits d) (dir : Direction) :
    ∃ y, Model.move dir d x = .ok y := by
  cases hmove : Model.move dir d x with
  | ok y => exact ⟨y, rfl⟩
  | error f =>
    have hnone := ((move_eq_error_iff hx).1 hmove).isBoundless_eq_false
    rw [hd] at hnone
    cases hnone

theorem exists_noNeighbour (h : d.isBoundless = false) :
    ∃ x f, x.Inhabits d ∧ NoNeighbour .up d x f := by
  induction d with
  | primitive p =>
    have hp : p.scalar = .character := by simpa [Descriptor.isBoundless] using h
    refine ⟨_, _, .primitive ?_, .afterLast (c := Char.ofNat 0x10ffff) hp (by decide)⟩
    rw [Primitive.Admits, hp]
    exact .character _
  | external type => cases h
  | list e ih =>
    obtain ⟨x, f, hx, hf⟩ := ih h
    exact ⟨.list [x], f, .list (List.forall_mem_singleton.2 hx), .element rfl hf⟩
  | set e ih =>
    cases hhash : e.unhashable? with
    | some type => exact ⟨.set [], _, .set (List.forall_mem_nil _) Value.distinct_nil, .emptySet hhash⟩
    | none =>
      simp only [Descriptor.isBoundless, Descriptor.isHashable_eq, hhash, Option.isNone_none,
        Bool.true_and] at h
      obtain ⟨x, f, hx, hf⟩ := ih h
      exact ⟨.set [x], f, .set (List.forall_mem_singleton.2 hx)
        (Value.distinct_singleton (Value.isHashable_of_unhashable? hx hhash)), .member .here hf⟩
  | map k v ihk ihv =>
    cases hhash : k.unhashable? with
    | some type =>
      exact ⟨.map [], _, .map (List.forall_mem_nil _) (List.forall_mem_nil _) Value.distinct_nil,
        .emptyMap hhash⟩
    | none =>
      obtain ⟨key, item, hkey, hitem, hends⟩ : ∃ key item, key.Inhabits k ∧ item.Inhabits v ∧
          ∃ f, NoNeighbour .up (.map k v) (.map [(key, item)]) f := by
        cases hk : k.isBoundless with
        | false =>
          obtain ⟨key, f, hkey, hf⟩ := ihk hk
          obtain ⟨item, -, hitem⟩ := exists_default v
          exact ⟨key, item, hkey, hitem, f, .key .here hf⟩
        | true =>
          simp only [Descriptor.isBoundless, Descriptor.isHashable_eq, hhash, hk,
            Option.isNone_none, Bool.true_and] at h
          obtain ⟨item, f, hitem, hf⟩ := ihv h
          obtain ⟨key, -, hkey⟩ := exists_default k
          obtain ⟨next, hnext⟩ := exists_neighbour hk hkey .up
          exact ⟨key, item, hkey, hitem, f, .item .here hnext hf⟩
      obtain ⟨f, hf⟩ := hends
      exact ⟨_, f, .map (List.forall_mem_singleton.2 hkey) (List.forall_mem_singleton.2 hitem)
        (Value.distinct_singleton (Value.isHashable_of_unhashable? hkey hhash)), hf⟩
  | pair a b iha ihb =>
    cases ha : a.isBoundless with
    | false =>
      obtain ⟨x, f, hx, hf⟩ := iha ha
      obtain ⟨y, -, hy⟩ := exists_default b
      exact ⟨.pair x y, f, .pair hx hy, .first hf⟩
    | true =>
      simp only [Descriptor.isBoundless, ha, Bool.true_and] at h
      obtain ⟨y, f, hy, hf⟩ := ihb h
      obtain ⟨x, -, hx⟩ := exists_default a
      obtain ⟨next, hnext⟩ := exists_neighbour ha hx .up
      exact ⟨.pair x y, f, .pair hx hy, .second hnext hf⟩

theorem isBoundless_iff : d.isBoundless = true ↔
    ∀ dir x, x.Inhabits d → ∃ y, Model.move dir d x = .ok y := by
  constructor
  · exact fun hd dir x hx => exists_neighbour hd hx dir
  · intro h
    by_contra hd
    obtain ⟨x, f, hx, hf⟩ := exists_noNeighbour (Bool.eq_false_iff.2 hd)
    obtain ⟨y, hy⟩ := h .up x hx
    rw [(move_eq_error_iff hx).2 hf] at hy
    cases hy

end

/-! ### Probing -/

/-- Wherever moves have led from a value that is made from a literal, the next move returns, or else
it ends with a fault at a place where there is no neighbour. -/
theorem move_returns_or_ends {d : Descriptor} {literal : Option String} {x y z : Value}
    (h : Model.create d (literal.getD "") = .ok x) (hy : Reached d x y) (hz : y.Reordered z)
    (dir : Direction) :
    ((∃ w, Model.move dir d z = .ok w) ∧ ∀ f, ¬ NoNeighbour dir d z f) ∨
      ∃ f, Model.move dir d z = .error f ∧ NoNeighbour dir d z f ∧
        (f = .noCharacter ∨ ∃ type, f = .mismatch (.unhashable type)) := by
  have hinhabits : z.Inhabits d := (hy.inhabits (inhabits_of_create h)).reordered hz
  cases hmove : Model.move dir d z with
  | ok w =>
    refine .inl ⟨⟨w, rfl⟩, fun f hf => ?_⟩
    rw [(move_eq_error_iff hinhabits).2 hf] at hmove
    cases hmove
  | error f =>
    have hf := (move_eq_error_iff hinhabits).1 hmove
    exact .inr ⟨f, rfl, hf, hf.fault_eq⟩

def lastCharacter : String := String.singleton (Char.ofNat 0x10ffff)

/-- The search for a key comes to the number 2, and the character that goes with it cannot move on
any more. -/
theorem move_returns_or_ends_map :
    Model.create (.map (.primitive .integer) (.primitive .character))
        ((some ("\x7b1=" ++ lastCharacter ++ ", 2=a\x7d")).getD "") =
        .ok (.map [(.int 1, .text lastCharacter), (.int 2, .text "a")]) ∧
      Model.move .up (.map (.primitive .integer) (.primitive .character))
        (.map [(.int 1, .text lastCharacter), (.int 2, .text "a")]) = .error .noCharacter ∧
      NoNeighbour .up (.map (.primitive .integer) (.primitive .character))
        (.map [(.int 1, .text lastCharacter), (.int 2, .text "a")]) .noCharacter := by
  have hmade : Model.create (.map (.primitive .integer) (.primitive .character))
      ((some ("\x7b1=" ++ lastCharacter ++ ", 2=a\x7d")).getD "") =
      .ok (.map [(.int 1, .text lastCharacter), (.int 2, .text "a")]) := by
    cbv
  have hmove : Model.move .up (.map (.primitive .integer) (.primitive .character))
      (.map [(.int 1, .text lastCharacter), (.int 2, .text "a")]) = .error .noCharacter := by
    cbv
  refine ⟨hmade, hmove, ?_⟩
  rcases move_returns_or_ends hmade .start (.refl _) .up with ⟨⟨w, hw⟩, -⟩ | ⟨f, hf, hends, -⟩
  · rw [hmove] at hw
    cases hw
  · rw [hmove] at hf
    cases hf
    exact hends

/-- There is no character above the last one, and none below the first one. What an empty set of
lists would take in has no hash, nor has the first key of an empty map from lists. -/
theorem move_lets_faults_escape :
    (Model.create (.primitive .character) lastCharacter = .ok (.text lastCharacter) ∧
      Model.move .up (.primitive .character) (.text lastCharacter) = .error .noCharacter) ∧
    (Model.create (.primitive .character) "\x00" = .ok (.text "\x00") ∧
      Model.move .down (.primitive .character) (.text "\x00") = .error .noCharacter) ∧
    (Model.create (.set (.list (.primitive .integer))) "" = .ok (.set []) ∧
      Model.move .up (.set (.list (.primitive .integer))) (.set []) =
        .error (.mismatch (.unhashable "list"))) ∧
    (Model.create (.map (.list (.primitive .integer)) (.primitive .integer)) "" = .ok (.map []) ∧
      Model.move .up (.map (.list (.primitive .integer)) (.primitive .integer)) (.map []) =
        .error (.mismatch (.unhashable "list"))) := by
  refine ⟨⟨?_, ?_⟩, ⟨?_, ?_⟩, ⟨rfl, rfl⟩, ⟨rfl, rfl⟩⟩
  all_goals cbv

end Synthesis

end Grounding

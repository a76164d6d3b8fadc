import Grounding.Proofs.Synthesis.Creation
import Grounding.Proofs.Synthesis.Observation
import Grounding.Synthesis.Model

/-!
# Sets and maps are gathered from lists

A literal stands for a set exactly if it stands for a list of values that have a hash, and then the
set is gathered from that list. A literal between braces stands for a map exactly if the same text
between square brackets stands for a list of pairs whose first components have a hash, and then the
map is gathered from these (`FollowsLists`). Both hold in models and in drivers, where making the
values may change the state. In a map that is gathered from entries, each key stands where it is met
first, with the item that comes last for it (`mapOf_eq`).
-/

namespace Grounding

open Synthesis Outcome Value

namespace Value

/-! ### The entries of a map -/

def entriesApart (k : Value) (es : List (Value × Value)) : List (Value × Value) :=
  es.filter fun e => !same e.1 k

/-- The item of the last entry for a key, or else the given one. -/
def lastItem (k x : Value) (es : List (Value × Value)) : Value :=
  ((es.filter fun e => same e.1 k).getLast?.map Prod.snd).getD x

theorem length_entriesApart_le (k : Value) (es : List (Value × Value)) :
    (entriesApart k es).length ≤ es.length :=
  List.length_filter_le _ es

/-- Entries gathered by their keys: each key stands where it is met first, with the last of its
items. -/
def gathered : List (Value × Value) → List (Value × Value)
  | [] => []
  | (k, x) :: rest => (k, lastItem k x rest) :: gathered (entriesApart k rest)
termination_by es => es.length
decreasing_by exact Nat.lt_succ_of_le (length_entriesApart_le k rest)

theorem lastItem_cons (k x : Value) (e : Value × Value) (es : List (Value × Value)) :
    lastItem k x (e :: es) = lastItem k (if same e.1 k then e.2 else x) es := by
  unfold lastItem
  by_cases h : same e.1 k = true
  · simp only [List.filter_cons, h, if_true, List.getLast?_cons]
    cases (es.filter fun e => same e.1 k).getLast? <;> rfl
  · simp only [List.filter_cons, h, Bool.false_eq_true, if_false]

theorem foldl_putEntry_cons (k x : Value) (fs es : List (Value × Value)) :
    es.foldl (fun fs e => putEntry e.1 e.2 fs) ((k, x) :: fs) =
      (k, lastItem k x es) ::
        (entriesApart k es).foldl (fun fs e => putEntry e.1 e.2 fs) fs := by
  induction es generalizing x fs with
  | nil => rfl
  | cons e es ih =>
    rw [List.foldl_cons, putEntry, lastItem_cons]
    by_cases h : same e.1 k = true
    · have hapart : entriesApart k (e :: es) = entriesApart k es := by simp [entriesApart, h]
      rw [if_pos h, ih, if_pos h, hapart]
    · have hapart : entriesApart k (e :: es) = e :: entriesApart k es := by simp [entriesApart, h]
      rw [if_neg h, ih, if_neg h, hapart, List.foldl_cons]

theorem mapOf_eq (es : List (Value × Value)) : mapOf es = .map (gathered es) := by
  rw [mapOf]
  congr 1
  induction hlength : es.length using Nat.strongRecOn generalizing es with
  | ind n ih =>
    cases es with
    | nil => rw [gathered, List.foldl_nil]
    | cons e rest =>
      have hshorter : (entriesApart e.1 rest).length < n := by
        have hle := length_entriesApart_le e.1 rest
        rw [List.length_cons] at hlength
        omega
      rw [List.foldl_cons, putEntry, foldl_putEntry_cons, gathered, ih _ hshorter _ rfl]

end Value

namespace Synthesis

/-! ### Literals between delimiters -/

theorem members_delimited_eq_ok_iff (b : Text.Bracket) (text : List Char)
    {parts : List (Option (List Char))} :
    members b (b.opening :: text ++ [b.closing]) = .ok parts ↔ Text.balanced text = true ∧
      (if (Text.strip text).isEmpty then []
        else (Text.splitTopLevel memberSeparator text).map some) = parts := by
  rw [List.cons_append, members]
  simp only [List.getLast?_concat, List.dropLast_concat, BEq.rfl, Bool.and_self, if_true]
  by_cases hbalanced : Text.balanced text = true
  · simp only [hbalanced, Bool.not_true, Bool.false_eq_true, if_false, true_and]
    by_cases hblank : (Text.strip text).isEmpty = true
    · rw [if_pos hblank, if_pos hblank]
      exact ⟨Except.ok.inj, congrArg Except.ok⟩
    · rw [if_neg hblank, if_neg hblank]
      exact ⟨Except.ok.inj, congrArg Except.ok⟩
  · simp [hbalanced]

/-! ### Composites -/

variable {m : Type → Type} [Monad m] [MonadExcept Fault m]

/-- Makes the entries of a map from the literals of its members. -/
def makeEntries (ext : Externals m) (k v : Descriptor) (parts : List (Option (List Char))) :
    m (List (Value × Value)) :=
  parts.mapM fun part => makeEntry (create ext k) (create ext v) (part.getD [])

/-- The pair of a key and an item. -/
def pairOf (e : Value × Value) : Value := .pair e.1 e.2

theorem pairOf_injective : Function.Injective pairOf := by
  intro e f h
  obtain ⟨hkey, hitem⟩ := Value.pair.inj h
  exact Prod.ext hkey hitem

section

variable {σ : Type} (o : Observation m σ) {s s' : σ} {ext : Externals m} {literal : List Char}
  {x : Value}

theorem yields_create_pair_iff {k v : Descriptor} :
    o.Yields (create ext (.pair k v) literal) s x s' ↔
      ∃ e, o.Yields (makeEntry (create ext k) (create ext v) literal) s e s' ∧ pairOf e = x := by
  simp only [create, makeEntry, o.yields_reading_bind_iff, o.yields_bind_iff, o.yields_pure_iff]
  constructor
  · rintro ⟨parts, hparts, key, s₁, hkey, item, s₂, hitem, hx, hs⟩
    exact ⟨(key, item), ⟨parts, hparts, key, s₁, hkey, item, s₂, hitem, rfl, hs⟩, hx⟩
  · rintro ⟨_, ⟨parts, hparts, key, s₁, hkey, item, s₂, hitem, rfl, hs⟩, hx⟩
    exact ⟨parts, hparts, key, s₁, hkey, item, s₂, hitem, hx, hs⟩

theorem yields_create_list_iff {e : Descriptor} :
    o.Yields (create ext (.list e) literal) s x s' ↔ ∃ parts, members .square literal = .ok parts ∧
      ∃ xs, o.Yields (parts.mapM fun part => create ext e (part.getD [])) s xs s' ∧
        .list xs = x := by
  rw [create, o.yields_reading_bind_iff]
  exact exists_congr fun parts => and_congr_right fun _ => o.yields_map_iff

variable [LawfulMonad m]

theorem yields_create_set_iff {e : Descriptor} :
    o.Yields (create ext (.set e) literal) s x s' ↔
      ∃ xs, o.Yields (create ext (.list e) literal) s (.list xs) s' ∧
        (∀ y ∈ xs, y.isHashable = true) ∧ setOf xs = x := by
  have hfold : ∀ (parts : List (Option (List Char))) (ys : List Value),
      o.Yields (parts.foldlM (addPart (create ext e) literal) []) s ys s' ↔
        ∃ xs, o.Yields (parts.mapM fun part => create ext e (part.getD [])) s xs s' ∧
          (∀ y ∈ xs, y.isHashable = true) ∧
            xs.foldl (fun ys y => y.insertMember ys) [] = ys := by
    intro parts ys
    apply o.yields_foldlM_iff
    intro _ _ _ _ _
    exact yields_addPart_iff o
  simp only [create, o.yields_reading_bind_iff, o.yields_map_iff, hfold, Value.list.injEq,
    exists_eq_right]
  constructor
  · rintro ⟨parts, hparts, _, ⟨xs, hxs, hhash, rfl⟩, rfl⟩
    exact ⟨xs, ⟨parts, hparts, hxs⟩, hhash, rfl⟩
  · rintro ⟨xs, ⟨parts, hparts, hxs⟩, hhash, rfl⟩
    exact ⟨parts, hparts, _, ⟨xs, hxs, hhash, rfl⟩, rfl⟩

theorem yields_create_pairs_iff {k v : Descriptor} :
    o.Yields (create ext (.list (.pair k v)) literal) s x s' ↔
      ∃ parts, members .square literal = .ok parts ∧
        ∃ es, o.Yields (makeEntries ext k v parts) s es s' ∧
          .list (es.map pairOf) = x := by
  have hpairs : ∀ (parts : List (Option (List Char))) (xs : List Value),
      o.Yields (parts.mapM fun part => create ext (.pair k v) (part.getD [])) s xs s' ↔
        ∃ es, o.Yields (makeEntries ext k v parts) s es s' ∧
          es.map pairOf = xs := by
    intro parts xs
    apply o.yields_mapM_iff
    intro _ _ _ _
    exact yields_create_pair_iff o
  rw [yields_create_list_iff]
  refine exists_congr fun parts => and_congr_right fun _ => ?_
  constructor
  · rintro ⟨xs, hxs, rfl⟩
    obtain ⟨es, hes, rfl⟩ := (hpairs parts xs).1 hxs
    exact ⟨es, hes, rfl⟩
  · rintro ⟨es, hes, rfl⟩
    exact ⟨es.map pairOf, (hpairs parts _).2 ⟨es, hes, rfl⟩, rfl⟩

/-- A text between braces is a literal of a map if between square brackets it is one of a list of
pairs whose first components have a hash. -/
theorem yields_create_map_iff {k v : Descriptor} {text : List Char} :
    o.Yields (create ext (.map k v)
        (Text.Bracket.curly.opening :: text ++ [Text.Bracket.curly.closing])) s x s' ↔
      ∃ es, o.Yields (create ext (.list (.pair k v))
          (Text.Bracket.square.opening :: text ++ [Text.Bracket.square.closing])) s
          (.list (es.map pairOf)) s' ∧
        (∀ e ∈ es, e.1.isHashable = true) ∧ mapOf es = x := by
  have hfold : ∀ (parts : List (Option (List Char))) (refused : List Char)
      (fs : List (Value × Value)),
      o.Yields (parts.foldlM (putPart (create ext k) (create ext v) refused) []) s fs s' ↔
        ∃ es, o.Yields (makeEntries ext k v parts) s es s' ∧
          (∀ e ∈ es, e.1.isHashable = true) ∧
            es.foldl (fun fs e => e.1.putEntry e.2 fs) [] = fs := by
    intro parts refused fs
    apply o.yields_foldlM_iff
    intro _ _ _ _ _
    exact yields_putPart_iff o
  simp only [yields_create_pairs_iff, members_delimited_eq_ok_iff, Value.list.injEq,
    List.map_inj_right @pairOf_injective, exists_eq_right]
  rw [create, o.yields_reading_bind_iff]
  simp only [members_delimited_eq_ok_iff, o.yields_map_iff, hfold]
  constructor
  · rintro ⟨parts, hparts, _, ⟨es, hes, hhash, rfl⟩, rfl⟩
    exact ⟨es, ⟨parts, hparts, hes⟩, hhash, rfl⟩
  · rintro ⟨es, ⟨parts, hparts, hes⟩, hhash, rfl⟩
    exact ⟨parts, hparts, _, ⟨es, hes, hhash, rfl⟩, rfl⟩

end

/-! ### Sets and maps -/

/-- What the literals of sets and maps stand for follows from what those of lists stand for. -/
structure FollowsLists (Makes : Descriptor → Option String → Value → Prop) : Prop where
  /-- Of a list type there are only lists. -/
  list {e : Descriptor} {literal : Option String} {x : Value} :
    Makes (.list e) literal x → ∃ xs, .list xs = x
  /-- A set is gathered from a list whose elements have a hash. -/
  set {e : Descriptor} {literal : Option String} {x : Value} :
    Makes (.set e) literal x ↔
      ∃ xs, Makes (.list e) literal (.list xs) ∧ (∀ y ∈ xs, y.isHashable = true) ∧ setOf xs = x
  /-- Of a type of lists of pairs there are only lists of pairs. -/
  pairs {k v : Descriptor} {literal : Option String} {x : Value} :
    Makes (.list (.pair k v)) literal x → ∃ es : List (Value × Value), .list (es.map pairOf) = x
  /-- A map is gathered from a list of pairs whose first components have a hash. -/
  map {k v : Descriptor} {text : String} {x : Value} :
    Makes (.map k v) (some ("\x7b" ++ text ++ "\x7d")) x ↔
      ∃ es : List (Value × Value),
        Makes (.list (.pair k v)) (some ("[" ++ text ++ "]")) (.list (es.map pairOf)) ∧
          (∀ e ∈ es, e.1.isHashable = true) ∧ mapOf es = x

/-- In whatever way results are observed, what literals stand for follows lists. -/
theorem followsLists_of_observation [LawfulMonad m] {σ : Type} (o : Observation m σ)
    (ext : Externals m) (s s' : σ) :
    FollowsLists fun d literal x => o.Yields (create ext d (literal.getD "").toList) s x s' where
  list h := by
    obtain ⟨_, -, xs, -, hx⟩ := (yields_create_list_iff o).1 h
    exact ⟨xs, hx⟩
  set := yields_create_set_iff o
  pairs h := by
    obtain ⟨_, -, es, -, hx⟩ := (yields_create_pairs_iff o).1 h
    exact ⟨es, hx⟩
  map := by
    intro k v text x
    simp only [Option.getD_some, String.toList_append]
    exact yields_create_map_iff o

/-- In models and in drivers, sets and maps are gathered from what lists are made of, where the
items of a map with the same key come together at the place of the first and with the value of the
last. -/
theorem sets_and_maps_follow_lists :
    FollowsLists (fun d literal x => Model.create d (literal.getD "") = .ok x) ∧
    (∀ (lib : Library) (h h' : Host), FollowsLists fun d literal x =>
      (create (Host.externals lib) d (literal.getD "").toList).run h = (.ok x, h')) ∧
    ∀ es, mapOf es = .map (gathered es) := by
  refine ⟨?_, ?_, mapOf_eq⟩
  · exact followsLists_of_observation Observation.model Model.externals () ()
  · intro lib h h'
    exact followsLists_of_observation Observation.driver (Host.externals lib) h h'

end Synthesis

end Grounding

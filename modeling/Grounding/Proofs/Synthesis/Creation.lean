import Grounding.Proofs.Synthesis.Observation

/-!
# What a literal is made into

When a value is made from a literal, and which one: a composite is made of the values that its
members are made into, and a set or a map takes them in one after another. How one member is taken
in is said of models and of drivers at once, and the rest of models.
-/

namespace Grounding.Synthesis

open Outcome

theorem reading_eq_ok_iff {α : Type} {r : Except LiteralError α} {a : α} :
    (reading r : Except Fault α) = .ok a ↔ r = .ok a := by
  cases r with
  | ok b => exact ⟨fun h => congrArg Except.ok (Except.ok.inj h), fun h => h ▸ rfl⟩
  | error e => exact ⟨fun h => (nomatch h), fun h => (nomatch h)⟩

theorem checked_eq {α : Type} (r : Except Fault α) : checked r = r := by
  cases r <;> rfl

theorem requireHashable_eq_ok_iff {x : Value} {u : Unit} :
    x.requireHashable = .ok u ↔ x.isHashable = true := by
  unfold Value.requireHashable Value.isHashable
  cases x.unhashable? with
  | none => simp
  | some type => simp

theorem addMember_eq_ok_iff {x : Value} {xs ys : List Value} {refusal : LiteralError} :
    addMember x xs refusal = .ok ys ↔ x.isHashable = true ∧ x.insertMember xs = ys := by
  unfold addMember
  split
  · next hx => exact ⟨fun h => ⟨hx, Except.ok.inj h⟩, fun h => congrArg Except.ok h.2⟩
  · next hx => exact ⟨fun h => (nomatch h), fun h => absurd h.1 hx⟩

theorem addEntry_eq_ok_iff {k x : Value} {es fs : List (Value × Value)} {refusal : LiteralError} :
    addEntry k x es refusal = .ok fs ↔ k.isHashable = true ∧ k.putEntry x es = fs := by
  unfold addEntry
  split
  · next hk => exact ⟨fun h => ⟨hk, Except.ok.inj h⟩, fun h => congrArg Except.ok h.2⟩
  · next hk => exact ⟨fun h => (nomatch h), fun h => absurd h.1 hk⟩

/-! ### Members and entries -/

section

variable {m : Type → Type} [Monad m] [MonadExcept Fault m]

def makeEntry (makeKey makeItem : List Char → m Value) (literal : List Char) :
    m (Value × Value) := do
  let (first, second) ← reading (components literal)
  let key ← makeKey first
  return (key, ← makeItem second)

variable {σ : Type} (o : Observation m σ) {s s' : σ} {make makeKey makeItem : List Char → m Value}
  {literal : List Char} {part : Option (List Char)}

theorem yields_makeEntry_iff {e : Value × Value} :
    o.Yields (makeEntry makeKey makeItem literal) s e s' ↔
      ∃ first second, components literal = .ok (first, second) ∧
        ∃ s₁, o.Yields (makeKey first) s e.1 s₁ ∧ o.Yields (makeItem second) s₁ e.2 s' := by
  simp only [makeEntry, o.yields_reading_bind_iff, o.yields_bind_iff, o.yields_pure_iff]
  constructor
  · rintro ⟨⟨first, second⟩, hparts, key, s₁, hkey, item, _, hitem, rfl, rfl⟩
    exact ⟨first, second, hparts, s₁, hkey, hitem⟩
  · rintro ⟨first, second, hparts, s₁, hkey, hitem⟩
    exact ⟨(first, second), hparts, e.1, s₁, hkey, e.2, s', hitem, rfl, rfl⟩

theorem yields_addPart_iff {xs ys : List Value} :
    o.Yields (addPart make literal xs part) s ys s' ↔
      ∃ x, (o.Yields (make (part.getD [])) s x s' ∧ x.isHashable = true) ∧
        x.insertMember xs = ys := by
  simp only [addPart, o.yields_bind_iff, o.yields_reading_iff, addMember_eq_ok_iff]
  constructor
  · rintro ⟨x, s₁, hx, ⟨hhash, hadded⟩, rfl⟩
    exact ⟨x, ⟨hx, hhash⟩, hadded⟩
  · rintro ⟨x, ⟨hx, hhash⟩, hadded⟩
    exact ⟨x, s', hx, ⟨hhash, hadded⟩, rfl⟩

theorem yields_putPart_iff {es fs : List (Value × Value)} :
    o.Yields (putPart makeKey makeItem literal es part) s fs s' ↔
      ∃ e, (o.Yields (makeEntry makeKey makeItem (part.getD [])) s e s' ∧ e.1.isHashable = true) ∧
        e.1.putEntry e.2 es = fs := by
  simp only [putPart, yields_makeEntry_iff, o.yields_reading_bind_iff, o.yields_bind_iff,
    o.yields_reading_iff, addEntry_eq_ok_iff]
  constructor
  · rintro ⟨⟨first, second⟩, hparts, key, s₁, hkey, item, _, hitem, ⟨hhash, hput⟩, rfl⟩
    exact ⟨(key, item), ⟨⟨first, second, hparts, s₁, hkey, hitem⟩, hhash⟩, hput⟩
  · rintro ⟨⟨key, item⟩, ⟨⟨first, second, hparts, s₁, hkey, hitem⟩, hhash⟩, hput⟩
    exact ⟨(first, second), hparts, key, s₁, hkey, item, s', hitem, ⟨hhash, hput⟩, rfl⟩

end

section

variable {make makeKey makeItem : List Char → Except Fault Value}

/-- A part of a set literal is made into a member. -/
def MakesMember (make : List Char → Except Fault Value) (part : Option (List Char)) (x : Value) :
    Prop :=
  make (part.getD []) = .ok x ∧ x.isHashable = true

/-- A part of a map literal is made into an entry. -/
def MakesEntry (makeKey makeItem : List Char → Except Fault Value) (part : Option (List Char))
    (e : Value × Value) : Prop :=
  (∃ first second, components (part.getD []) = .ok (first, second) ∧
    makeKey first = .ok e.1 ∧ makeItem second = .ok e.2) ∧ e.1.isHashable = true

theorem addPart_eq_ok_iff {literal : List Char} {xs ys : List Value} {part : Option (List Char)} :
    addPart make literal xs part = .ok ys ↔
      ∃ x, MakesMember make part x ∧ x.insertMember xs = ys := by
  rw [Observation.eq_ok_iff_yields, yields_addPart_iff]
  rfl

theorem foldlM_addPart_eq_ok_iff {literal : List Char} {parts : List (Option (List Char))}
    {xs ys : List Value} :
    parts.foldlM (addPart make literal) xs = .ok ys ↔ ∃ zs,
      List.Forall₂ (MakesMember make) parts zs ∧ zs.foldl (fun ys y => y.insertMember ys) xs = ys :=
  foldlM_eq_ok_iff fun _ _ _ => by exact addPart_eq_ok_iff

theorem putPart_eq_ok_iff {literal : List Char} {es fs : List (Value × Value)}
    {part : Option (List Char)} :
    putPart makeKey makeItem literal es part = .ok fs ↔
      ∃ e, MakesEntry makeKey makeItem part e ∧ e.1.putEntry e.2 es = fs := by
  rw [Observation.eq_ok_iff_yields, yields_putPart_iff]
  simp only [yields_makeEntry_iff, Observation.model, exists_const, MakesEntry]

theorem foldlM_putPart_eq_ok_iff {literal : List Char} {parts : List (Option (List Char))}
    {es fs : List (Value × Value)} :
    parts.foldlM (putPart makeKey makeItem literal) es = .ok fs ↔ ∃ gs,
      List.Forall₂ (MakesEntry makeKey makeItem) parts gs ∧
        gs.foldl (fun fs e => e.1.putEntry e.2 fs) es = fs :=
  foldlM_eq_ok_iff fun _ _ _ => by exact putPart_eq_ok_iff

end

/-! ### Composites -/

variable {ext : Externals (Except Fault)} {literal : List Char} {x : Value}

theorem create_primitive_eq_ok_iff {p : Primitive} :
    create ext (.primitive p) literal = .ok x ↔ p.ofLiteral literal = .ok x :=
  reading_eq_ok_iff

theorem create_list_eq_ok_iff {e : Descriptor} :
    create ext (.list e) literal = .ok x ↔ ∃ parts xs, members .square literal = .ok parts ∧
      List.Forall₂ (fun part y => create ext e (part.getD []) = .ok y) parts xs ∧
        .list xs = x := by
  simp only [create, bind_eq_ok_iff, pure_eq_ok_iff, reading_eq_ok_iff, mapM_eq_ok_iff,
    exists_and_left]

theorem create_set_eq_ok_iff {e : Descriptor} :
    create ext (.set e) literal = .ok x ↔ ∃ parts xs, members .square literal = .ok parts ∧
      List.Forall₂ (MakesMember (create ext e)) parts xs ∧ .setOf xs = x := by
  simp only [create, bind_eq_ok_iff, pure_eq_ok_iff, reading_eq_ok_iff,
    foldlM_addPart_eq_ok_iff]
  constructor
  · rintro ⟨parts, hparts, _, ⟨xs, hxs, rfl⟩, rfl⟩
    exact ⟨parts, xs, hparts, hxs, rfl⟩
  · rintro ⟨parts, xs, hparts, hxs, rfl⟩
    exact ⟨parts, hparts, _, ⟨xs, hxs, rfl⟩, rfl⟩

theorem create_map_eq_ok_iff {k v : Descriptor} :
    create ext (.map k v) literal = .ok x ↔ ∃ parts es, members .curly literal = .ok parts ∧
      List.Forall₂ (MakesEntry (create ext k) (create ext v)) parts es ∧ .mapOf es = x := by
  simp only [create, bind_eq_ok_iff, pure_eq_ok_iff, reading_eq_ok_iff,
    foldlM_putPart_eq_ok_iff]
  constructor
  · rintro ⟨parts, hparts, _, ⟨es, hes, rfl⟩, rfl⟩
    exact ⟨parts, es, hparts, hes, rfl⟩
  · rintro ⟨parts, es, hparts, hes, rfl⟩
    exact ⟨parts, hparts, _, ⟨es, hes, rfl⟩, rfl⟩

theorem create_pair_eq_ok_iff {a b : Descriptor} :
    create ext (.pair a b) literal = .ok x ↔ ∃ first second,
      components literal = .ok (first, second) ∧
        ∃ y z, create ext a first = .ok y ∧ create ext b second = .ok z ∧ .pair y z = x := by
  simp only [create, bind_eq_ok_iff, pure_eq_ok_iff, reading_eq_ok_iff, Prod.exists,
    exists_and_left]

end Grounding.Synthesis

import Grounding.Proofs.Synthesis.Runs

/-!
# The constructors that a run calls

A value of an external type is made by the constructor that the type stands for at that time
(`currentConstructor_of_constructs`). That one stays the same until something is registered for the
type or a package is added (`currentConstructor_after`), and for good once the type is resolved,
which making a value from an identifier does, and making one from a JSON object does not. So the
constructor of a type can only change in a run after values of it have been made from JSON objects
alone (`constructs_same_or_rebound`).
-/

namespace Grounding.Host

variable {lib : Library} {h : Host} {registry : List (String × Constructor)} {type : String}
  {c c' : Constructor} {r r' : Request}

/-- A request makes a value of a type by a call of a constructor. -/
inductive Constructs (lib : Library) (h : Host) : Request → String → Constructor → Prop
  | ofIdentifier {type identifier : String} {c : Constructor} {x : Value}
      (hc : ((resolve lib type).run h).1 = .ok c) (hx : c.ofIdentifier identifier = some x) :
      Constructs lib h (.ofIdentifier type identifier) type c
  | ofMembers {type : String} {members : List (String × Json)} {c : Constructor} {x : Value}
      (hc : h.currentConstructor lib type = .ok c) (hx : c.ofMembers members = some x) :
      Constructs lib h (.ofMembers type members) type c

theorem exists_constructs_ofIdentifier_iff {identifier : String} :
    (∃ c, Constructs lib h (.ofIdentifier type identifier) type c) ↔
      ∃ x, ((ofIdentifier lib type identifier).run h).1 = .ok x := by
  rw [ofIdentifier_run]
  constructor
  · rintro ⟨c, hr⟩
    cases hr with
    | ofIdentifier hc hx => exact ⟨_, by rw [hc, Except.bind, hx]⟩
  · rintro ⟨x, hx⟩
    obtain ⟨c, hc, hx⟩ := Outcome.bind_eq_ok_iff.1 hx
    split at hx
    · next hcall => exact ⟨c, .ofIdentifier hc hcall⟩
    · cases hx

theorem exists_constructs_ofMembers_iff {members : List (String × Json)} :
    (∃ c, Constructs lib h (.ofMembers type members) type c) ↔
      ∃ x, ((ofMembers lib type members).run h).1 = .ok x := by
  rw [ofMembers_run]
  constructor
  · rintro ⟨c, hr⟩
    cases hr with
    | ofMembers hc hx => exact ⟨_, by rw [hc, Except.bind, hx]⟩
  · rintro ⟨x, hx⟩
    obtain ⟨c, hc, hx⟩ := Outcome.bind_eq_ok_iff.1 hx
    split at hx
    · next hcall => exact ⟨c, .ofMembers hc hcall⟩
    · cases hx

/-! ### The constructor that a type stands for -/

theorem currentConstructor_of_resolved (hc : h.resolved.lookup type = some c) :
    h.currentConstructor lib type = .ok c := by
  rw [currentConstructor, hc]

theorem currentConstructor_of_resolve (hc : ((resolve lib type).run h).1 = .ok c) :
    h.currentConstructor lib type = .ok c := by
  rcases resolve_cases lib h type with ⟨f, hrun, -⟩ | ⟨c', hrun, hresolved⟩ |
    ⟨c', hrun, hnone, hlocate⟩ <;> rw [hrun] at hc
  · cases hc
  · rw [currentConstructor_of_resolved hresolved, ← hc]
  · rw [currentConstructor, hnone, ← hc]
    exact hlocate

theorem currentConstructor_of_constructs (hr : Constructs lib h r type c) :
    h.currentConstructor lib type = .ok c := by
  cases hr with
  | ofIdentifier hc _ => exact currentConstructor_of_resolve hc
  | ofMembers hc _ => exact hc

theorem lookup_after_of_constructs (hr : Constructs lib h r type c) :
    (r.after lib h).resolved.lookup type = some c ∨ ∃ members, r = .ofMembers type members := by
  cases hr with
  | ofIdentifier hc _ => exact .inl ((Request.lookup_after _).2 (.inr ⟨rfl, hc⟩))
  | ofMembers _ _ => exact .inr ⟨_, rfl⟩

/-- A request can change what a type stands for. -/
inductive Request.Rebinds (type : String) : Request → Prop
  | register (c : Constructor) : Rebinds type (.register type c)
  | usePackage (package : String) : Rebinds type (.usePackage package)

theorem currentConstructor_resolve {other : String} :
    ((resolve lib other).run h).2.currentConstructor lib type =
      h.currentConstructor lib type := by
  have hlocate : ((resolve lib other).run h).2.locate lib type = h.locate lib type := by
    rw [locate, locate, registry_resolve, packages_resolve]
  rcases eq_or_ne type other with rfl | hne
  · cases hc : ((resolve lib type).run h).1 with
    | ok c =>
      rw [currentConstructor_of_resolve hc, currentConstructor_of_resolved (lookup_resolve.2 hc)]
    | error f =>
      have hsame : ((resolve lib type).run h).2 = h := (resolve_fails (Prod.ext hc rfl)).1
      rw [hsame]
  · rw [currentConstructor, currentConstructor, lookup_resolve_of_ne hne, hlocate]

/-- What one step preserves: only two requests can change what a type stands for. -/
theorem currentConstructor_after (hr : ¬ r.Rebinds type) :
    (r.after lib h).currentConstructor lib type = h.currentConstructor lib type := by
  cases r with
  | register type' c =>
    have hne : type ≠ type' := by
      rintro rfl
      exact hr (.register c)
    have hlookup : (h.register type' c).registry.lookup type = h.registry.lookup type := by
      rw [register, List.lookup_cons, beq_eq_false_iff_ne.2 hne]
    rw [Request.after, currentConstructor, currentConstructor, locate, locate, hlookup]
    rfl
  | usePackage package => exact absurd (.usePackage package) hr
  | resolve type' => exact currentConstructor_resolve
  | ofIdentifier type' identifier =>
    rw [Request.after_ofIdentifier]
    exact currentConstructor_resolve
  | ofMembers type' members => rw [Request.after_ofMembers]

theorem lookup_replay_of_resolved (asked : List Request) (hc : h.resolved.lookup type = some c) :
    (replay lib h asked).resolved.lookup type = some c := by
  induction asked generalizing h with
  | nil => exact hc
  | cons r asked ih => exact ih (Request.lookup_after r |>.2 (.inl hc))

/-- What several requests preserve: a type comes to stand for another constructor only if one of
them can change that, at a time when the type is not resolved. -/
theorem currentConstructor_replay (asked : List Request) :
    (replay lib h asked).currentConstructor lib type = h.currentConstructor lib type ∨
      ∃ early q late, asked = early ++ q :: late ∧ q.Rebinds type ∧
        (replay lib h early).resolved.lookup type = none := by
  induction asked generalizing h with
  | nil => exact .inl rfl
  | cons q asked ih =>
    cases hc : h.resolved.lookup type with
    | some c =>
      left
      rw [currentConstructor_of_resolved hc,
        currentConstructor_of_resolved (lookup_replay_of_resolved (q :: asked) hc)]
    | none =>
      by_cases hq : q.Rebinds type
      · exact .inr ⟨[], q, asked, rfl, hq, hc⟩
      · rcases ih (h := q.after lib h) with hsame | ⟨early, q', late, rfl, hq', hnone⟩
        · exact .inl (hsame.trans (currentConstructor_after hq))
        · exact .inr ⟨q :: early, q', late, rfl, hq', hnone⟩

/-! ### Two constructions of a run -/

/-- Two values of a type are made in a run by the same constructor, unless the first one is made
from a JSON object, and between them, before the type is resolved, the driver registers something
for it or adds a package. -/
theorem constructs_same_or_rebound (lib : Library) (registry : List (String × Constructor))
    (actions : List Action) {before between after : List Request}
    (hpoint : requests lib (started registry) actions = before ++ r :: (between ++ r' :: after))
    (hr : Constructs lib (replay lib (started registry) before) r type c)
    (hr' : Constructs lib (replay lib (started registry) (before ++ r :: between)) r' type c') :
    c = c' ∨ (∃ members, r = .ofMembers type members) ∧
      ∃ early q late, between = early ++ q :: late ∧ .ask q ∈ actions ∧ q.Rebinds type ∧
        ∀ c, ¬ HasResolved lib (started registry) (before ++ r :: early) type c := by
  have hc := currentConstructor_of_constructs hr
  have hc' := currentConstructor_of_constructs hr'
  rw [replay_append] at hc'
  rcases currentConstructor_replay (r :: between) with hsame | ⟨early, q, late, hsplit, hq, hnone⟩
  · left
    rw [hsame, hc] at hc'
    exact Except.ok.inj hc'
  · right
    cases early with
    | nil =>
      -- the first construction itself rebinds nothing
      obtain ⟨rfl, -⟩ := List.cons.inj hsplit
      cases hr <;> cases hq
    | cons r₀ early =>
      obtain ⟨rfl, rfl⟩ := List.cons.inj hsplit
      have hasked : q ∈ requests lib (started registry) actions := by simp [hpoint]
      have hask : .ask q ∈ actions := (ask_mem_of_mem_requests hasked).resolve_left fun hq' => by
        cases hq' <;> cases hq
      refine ⟨?_, early, q, late, rfl, hask, hq, fun c₀ hc₀ => ?_⟩
      · rcases lookup_after_of_constructs hr with hresolved | hmembers
        · exact nomatch hnone.symm.trans (lookup_replay_of_resolved early hresolved)
        · exact hmembers
      · rw [← lookup_replay, replay_append] at hc₀
        exact nomatch hnone.symm.trans hc₀

/-- The constructor of a class with one field, which takes identifiers and JSON objects. -/
def maker (cls field : String) : Constructor where
  label := cls
  signature := .accepts
  ofIdentifier name := some (Synthesis.kept cls field name)
  ofMembers
    | [(name, .string s)] => if name = field then some (Synthesis.kept cls field s) else none
    | _ => none

/-- A vat is made from a JSON object, and then one from an identifier, with another class registered
between. -/
def registersBetween : List Action :=
  [.ask (.register "Vat" (maker "Vat" "ident")),
    .perform (.decode (.object [("ident", .string "v")]) (.descriptor (.external "Vat"))),
    .ask (.register "Vat" (maker "Doc" "name")),
    .perform (.create (some "v") (.descriptor (.external "Vat")))]

/-- The two classes are called for one type: values that are decoded are not those expected. -/
theorem constructors_differ :
    ¬ ∀ (lib : Library) (registry : List (String × Constructor)) (actions : List Action)
      (before between after : List Request) (r r' : Request) (type : String) (c c' : Constructor),
      requests lib (started registry) actions = before ++ r :: (between ++ r' :: after) →
      Constructs lib (replay lib (started registry) before) r type c →
      Constructs lib (replay lib (started registry) (before ++ r :: between)) r' type c' →
      c = c' := by
  intro hsame
  have heq : maker "Vat" "ident" = maker "Doc" "name" :=
    hsame ⟨fun _ => .missing⟩ [] registersBetween [.register "Vat" (maker "Vat" "ident")]
      [.register "Vat" (maker "Doc" "name")] [] (.ofMembers "Vat" [("ident", .string "v")])
      (.ofIdentifier "Vat" "v") "Vat" _ _ rfl (.ofMembers rfl rfl) (.ofIdentifier rfl rfl)
  exact absurd (congrArg Constructor.label heq) (by decide)

/-- There the other class is registered before the type is resolved. -/
theorem constructs_same_or_rebound_between :
    let before : List Request := [.register "Vat" (maker "Vat" "ident")]
    let r : Request := .ofMembers "Vat" [("ident", .string "v")]
    let between : List Request := [.register "Vat" (maker "Doc" "name")]
    let r' : Request := .ofIdentifier "Vat" "v"
    requests ⟨fun _ => .missing⟩ (started []) registersBetween = before ++ r :: (between ++ [r']) ∧
    ∃ early q late, between = early ++ q :: late ∧ .ask q ∈ registersBetween ∧
      q.Rebinds "Vat" ∧
      ∀ c, ¬ HasResolved ⟨fun _ => .missing⟩ (started []) (before ++ r :: early) "Vat" c := by
  intro before r between r'
  have hrun : requests ⟨fun _ => .missing⟩ (started []) registersBetween =
      before ++ r :: (between ++ [r']) := rfl
  refine ⟨hrun, ?_⟩
  have heither := constructs_same_or_rebound ⟨fun _ => .missing⟩ [] registersBetween hrun
    (.ofMembers rfl rfl) (.ofIdentifier rfl rfl)
  have hdiffer : maker "Vat" "ident" ≠ maker "Doc" "name" := fun heq =>
    absurd (congrArg Constructor.label heq) (by decide)
  exact (heither.resolve_left hdiffer).2

end Grounding.Host

import Grounding.Proofs.Distinct
import Grounding.Proofs.Synthesis.Refinement
import Grounding.Proofs.Synthesis.Requests
import Mathlib

/-!
# Resolution over whole runs

A host keeps three tables: registered constructors, packages and resolved constructors. At every
point of a run they are determined by the requests so far: the packages are the names given, in the
order of their first use; a constructor is registered if it was the last one to be; and a type is
resolved if some request has resolved it. What a request does to the tables is said once
(`Request.after`), and what a run does follows by induction on the requests.
-/

namespace Grounding.Host

variable {lib : Library} {h : Host} {registry : List (String × Constructor)} {type other : String}
  {c : Constructor}

/-! ### One resolution -/

theorem resolve_of_resolved (hc : h.resolved.lookup type = some c) :
    (resolve lib type).run h = (.ok c, h) := by
  rw [resolve_run, hc]

theorem resolve_of_unresolved (hnone : h.resolved.lookup type = none) :
    (resolve lib type).run h = match h.locate lib type with
      | .ok c =>
        if c.acceptsIdentifier then (.ok c, { h with resolved := (type, c) :: h.resolved })
        else (.error (.external (.noConstructor type)), h)
      | .error e => (.error e, h) := by
  have hrun := resolve_run lib type h
  rw [hnone] at hrun
  exact hrun

theorem resolve_cases (lib : Library) (h : Host) (type : String) :
    (∃ f, (resolve lib type).run h = (.error f, h) ∧ h.resolved.lookup type = none) ∨
    (∃ c, (resolve lib type).run h = (.ok c, h) ∧ h.resolved.lookup type = some c) ∨
    ∃ c, (resolve lib type).run h = (.ok c, { h with resolved := (type, c) :: h.resolved }) ∧
      h.resolved.lookup type = none ∧ h.locate lib type = .ok c := by
  cases hc : h.resolved.lookup type with
  | some c => exact .inr (.inl ⟨c, resolve_of_resolved hc, rfl⟩)
  | none =>
    rw [resolve_of_unresolved hc]
    cases h.locate lib type with
    | error f => exact .inl ⟨f, rfl, rfl⟩
    | ok c =>
      by_cases haccepts : c.acceptsIdentifier = true
      · exact .inr (.inr ⟨c, if_pos haccepts, rfl, rfl⟩)
      · exact .inl ⟨_, if_neg haccepts, rfl⟩

theorem registry_resolve : ((resolve lib type).run h).2.registry = h.registry := by
  rcases resolve_cases lib h type with ⟨f, hrun, -⟩ | ⟨c, hrun, -⟩ | ⟨c, hrun, -⟩ <;> rw [hrun]

theorem packages_resolve : ((resolve lib type).run h).2.packages = h.packages := by
  rcases resolve_cases lib h type with ⟨f, hrun, -⟩ | ⟨c, hrun, -⟩ | ⟨c, hrun, -⟩ <;> rw [hrun]

theorem lookup_resolve : ((resolve lib type).run h).2.resolved.lookup type = some c ↔
    ((resolve lib type).run h).1 = .ok c := by
  rcases resolve_cases lib h type with ⟨f, hrun, hc⟩ | ⟨c', hrun, hc⟩ | ⟨c', hrun, -⟩ <;> rw [hrun]
  · simp [hc]
  · simp [hc]
  · simp

theorem lookup_resolve_of_ne (hne : other ≠ type) :
    ((resolve lib type).run h).2.resolved.lookup other = h.resolved.lookup other := by
  rcases resolve_cases lib h type with ⟨f, hrun, -⟩ | ⟨c', hrun, -⟩ | ⟨c', hrun, -⟩ <;> rw [hrun]
  simp [List.lookup_cons, beq_eq_false_iff_ne.2 hne]

/-! ### One request -/

theorem ofIdentifier_run (identifier : String) :
    (ofIdentifier lib type identifier).run h =
      (((resolve lib type).run h).1.bind fun c => match c.ofIdentifier identifier with
        | some x => .ok x
        | none => .error (.external (.refusedIdentifier type identifier)),
      ((resolve lib type).run h).2) := by
  rw [ofIdentifier, Outcome.run_bind]
  rcases (resolve lib type).run h with ⟨f | c, h'⟩
  · rfl
  · dsimp only [Except.bind]
    cases c.ofIdentifier identifier <;> rfl

/-- The constructor that a type stands for: the one it is resolved to, or one that is located. -/
def currentConstructor (lib : Library) (type : String) (h : Host) : Except Fault Constructor :=
  match h.resolved.lookup type with
  | some c => .ok c
  | none => h.locate lib type

theorem ofMembers_run (members : List (String × Json)) :
    (ofMembers lib type members).run h =
      ((h.currentConstructor lib type).bind fun c => match c.ofMembers members with
        | some x => .ok x
        | none => .error (.external (.refusedMembers type members)), h) := by
  have hget : (get : Hosted Host).run h = (.ok h, h) := rfl
  rw [ofMembers, Outcome.run_bind, hget, currentConstructor]
  dsimp only
  cases h.resolved.lookup type with
  | some c =>
    dsimp only [Except.bind]
    rw [pure_bind]
    cases c.ofMembers members <;> rfl
  | none =>
    cases h.locate lib type with
    | error f => rfl
    | ok c =>
      have hlocated : (Synthesis.checked (.ok c) : Hosted Constructor) = pure c := rfl
      dsimp only [Except.bind]
      rw [hlocated, pure_bind]
      cases c.ofMembers members <;> rfl

def Request.resolved? : Request → Option String
  | .resolve type | .ofIdentifier type _ => some type
  | _ => none

theorem Request.after_ofIdentifier {identifier : String} :
    (ofIdentifier type identifier).after lib h = ((Host.resolve lib type).run h).2 := by
  rw [after, ofIdentifier_run]

theorem Request.after_ofMembers {members : List (String × Json)} :
    (ofMembers type members).after lib h = h := by
  rw [after, ofMembers_run]

theorem Request.after_of_resolved? {r : Request} (hr : r.resolved? = some type) :
    r.after lib h = ((Host.resolve lib type).run h).2 := by
  cases r with
  | resolve _ =>
    obtain rfl := Option.some.inj hr
    rfl
  | ofIdentifier _ identifier =>
    obtain rfl := Option.some.inj hr
    exact after_ofIdentifier
  | register _ _ => cases hr
  | usePackage _ => cases hr
  | ofMembers _ _ => cases hr

/-! ### The tables after several requests -/

def started (registry : List (String × Constructor)) : Host := ⟨registry, [], []⟩

def Request.package? : Request → Option String
  | .usePackage package => if package.isEmpty then none else some package
  | _ => none

def Request.registration? (type : String) : Request → Option Constructor
  | .register type' c => if type' = type then some c else none
  | _ => none

/-- The constructor that was the last one to be registered for a type. -/
def registered? (registry : List (String × Constructor)) (asked : List Request) (type : String) :
    Option Constructor :=
  (asked.reverse.findSome? (Request.registration? type)).or (registry.lookup type)

/-- Some request has come to a constructor of a type. -/
def HasResolved (lib : Library) (h : Host) (asked : List Request) (type : String)
    (c : Constructor) : Prop :=
  ∃ earlier r later, asked = earlier ++ r :: later ∧ r.resolved? = some type ∧
    ((resolve lib type).run (replay lib h earlier)).1 = .ok c

theorem Request.packages_after (r : Request) :
    (r.after lib h).packages = match r.package? with
      | some package =>
        if package ∈ h.packages then h.packages else h.packages ++ [package]
      | none => h.packages := by
  cases r with
  | register type c => rfl
  | usePackage package =>
    rw [after, package?, Host.usePackage]
    by_cases hempty : package.isEmpty = true
    · simp [hempty]
    · by_cases hmem : package ∈ h.packages <;> simp [hempty, hmem]
  | resolve type => exact packages_resolve
  | ofIdentifier type identifier =>
    rw [after_ofIdentifier]
    exact packages_resolve
  | ofMembers type members =>
    rw [after_ofMembers]
    rfl

theorem Request.registry_after (r : Request) (type : String) :
    (r.after lib h).registry.lookup type =
      (r.registration? type).or (h.registry.lookup type) := by
  cases r with
  | register type' c =>
    rw [after, registration?, Host.register, List.lookup_cons]
    by_cases heq : type = type'
    · simp [heq]
    · simp [beq_eq_false_iff_ne.2 heq, Ne.symm heq]
  | usePackage package =>
    have hkeeps : (h.usePackage package).registry = h.registry := by
      rw [Host.usePackage]
      split <;> rfl
    rw [after, hkeeps]
    rfl
  | resolve type => exact congrArg _ registry_resolve
  | ofIdentifier type identifier =>
    rw [after_ofIdentifier, registry_resolve]
    rfl
  | ofMembers type members =>
    rw [after_ofMembers]
    rfl

theorem Request.lookup_after (r : Request) :
    (r.after lib h).resolved.lookup type = some c ↔
      h.resolved.lookup type = some c ∨
        r.resolved? = some type ∧ ((Host.resolve lib type).run h).1 = .ok c := by
  by_cases hr : r.resolved? = some type
  · rw [after_of_resolved? hr, lookup_resolve]
    refine ⟨fun hc => .inr ⟨hr, hc⟩, fun hc => hc.elim (fun hc => ?_) And.right⟩
    rw [resolve_of_resolved hc]
  · have hkeeps : (r.after lib h).resolved.lookup type = h.resolved.lookup type := by
      cases hother : r.resolved? with
      | some other =>
        have hne : type ≠ other := by
          rintro rfl
          exact hr hother
        rw [after_of_resolved? hother, lookup_resolve_of_ne hne]
      | none =>
        cases r with
        | register type' c => rfl
        | usePackage package =>
          rw [after, Host.usePackage]
          split <;> rfl
        | resolve type' => cases hother
        | ofIdentifier type' identifier => cases hother
        | ofMembers type' members => rw [after_ofMembers]
    rw [hkeeps, or_iff_left fun hc => hr hc.1]

theorem packages_replay (asked : List Request) :
    (replay lib (started registry) asked).packages = (asked.filterMap Request.package?).eraseDups := by
  induction asked using List.reverseRecOn with
  | nil => rfl
  | append_singleton asked r ih =>
    rw [replay_append_singleton, Request.packages_after, ih, List.filterMap_append]
    cases hr : r.package? with
    | none =>
      have hfilter : List.filterMap Request.package? [r] = [] := by simp [hr]
      rw [hfilter, List.append_nil]
    | some package =>
      have hfilter : List.filterMap Request.package? [r] = [package] := by simp [hr]
      rw [hfilter, eraseDups_append_singleton]
      simp only [List.mem_eraseDups]

theorem registered?_append_singleton (asked : List Request) (r : Request) :
    registered? registry (asked ++ [r]) type =
      (r.registration? type).or (registered? registry asked type) := by
  rw [registered?, registered?, List.reverse_append, List.findSome?_append, Option.or_assoc]
  simp

theorem registry_replay (asked : List Request) :
    (replay lib (started registry) asked).registry.lookup type = registered? registry asked type := by
  induction asked using List.reverseRecOn with
  | nil => rfl
  | append_singleton asked r ih =>
    rw [replay_append_singleton, Request.registry_after, ih, registered?_append_singleton]

theorem hasResolved_append_singleton {asked : List Request} {r : Request} :
    HasResolved lib h (asked ++ [r]) type c ↔ HasResolved lib h asked type c ∨
      r.resolved? = some type ∧ ((resolve lib type).run (replay lib h asked)).1 = .ok c := by
  constructor
  · rintro ⟨earlier, r', later, hasked, hr, hc⟩
    rcases List.eq_nil_or_concat later with rfl | ⟨later, last, rfl⟩
    · obtain ⟨rfl, heq⟩ := List.append_inj' hasked rfl
      obtain rfl := List.singleton_inj.1 heq
      exact .inr ⟨hr, hc⟩
    · rw [List.concat_eq_append, ← List.cons_append, ← List.append_assoc] at hasked
      exact .inl ⟨earlier, r', later, (List.append_inj' hasked rfl).1, hr, hc⟩
  · rintro (⟨earlier, r', later, rfl, hr, hc⟩ | ⟨hr, hc⟩)
    · exact ⟨earlier, r', later ++ [r], by simp, hr, hc⟩
    · exact ⟨asked, r, [], rfl, hr, hc⟩

theorem lookup_replay (asked : List Request) :
    (replay lib (started registry) asked).resolved.lookup type = some c ↔
      HasResolved lib (started registry) asked type c := by
  induction asked using List.reverseRecOn with
  | nil =>
    have hnot : ¬ HasResolved lib (started registry) [] type c := by
      rintro ⟨earlier, r, later, hasked, -⟩
      simp at hasked
    exact iff_of_false nofun hnot
  | append_singleton asked r ih =>
    rw [hasResolved_append_singleton, ← ih, replay_append_singleton, Request.lookup_after]

/-! ### Where a constructor comes from -/

/-- What a search of packages for a constructor comes to. A package is passed over if it is not
importable, or if it has no constructor of the type; its code may also end the search with an
error of its own. -/
inductive Searches (lib : Library) (type : String) : List String → Except Fault Constructor → Prop
  | found {passed rest : List String} {package : String} {c : Constructor} :
      (∀ p ∈ passed, lib.constructor? p type = .ok none) →
      lib.constructor? package type = .ok (some c) →
      Searches lib type (passed ++ package :: rest) (.ok c)
  | raised {passed rest : List String} {package : String} {f : Fault} :
      (∀ p ∈ passed, lib.constructor? p type = .ok none) →
      lib.constructor? package type = .error f →
      Searches lib type (passed ++ package :: rest) (.error f)
  | nowhere {packages : List String} :
      (∀ p ∈ packages, lib.constructor? p type = .ok none) →
      Searches lib type packages (.error (.external (.notFound type)))

theorem Searches.cons {package : String} {packages : List String}
    {located : Except Fault Constructor} (hpassed : lib.constructor? package type = .ok none)
    (h : Searches lib type packages located) : Searches lib type (package :: packages) located := by
  cases h with
  | found hbefore hc => exact .found (List.forall_mem_cons.2 ⟨hpassed, hbefore⟩) hc
  | raised hbefore hf => exact .raised (List.forall_mem_cons.2 ⟨hpassed, hbefore⟩) hf
  | nowhere hall => exact .nowhere (List.forall_mem_cons.2 ⟨hpassed, hall⟩)

theorem searches_search {packages : List String}
    (hpackages : ∀ package ∈ packages, package.toList.head? ≠ some '.') :
    Searches lib type packages (search lib type packages) := by
  induction packages with
  | nil => exact .nowhere (List.forall_mem_nil _)
  | cons package rest ih =>
    obtain ⟨hpackage, hrest⟩ := List.forall_mem_cons.1 hpackages
    rw [search, if_neg (by simpa using hpackage)]
    cases hfound : lib.constructor? package type with
    | error f => exact .raised (List.forall_mem_nil _) hfound
    | ok found =>
      cases found with
      | some c => exact .found (List.forall_mem_nil _) hfound
      | none => exact (ih hrest).cons hfound

/-- What is located for a type after some requests: what was registered last, or else what a search
of the packages comes to. -/
def Locates (lib : Library) (registry : List (String × Constructor)) (asked : List Request)
    (type : String) (packages : List String) (located : Except Fault Constructor) : Prop :=
  match registered? registry asked type with
  | some c => located = .ok c
  | none => Searches lib type packages located

theorem locates_locate {asked : List Request}
    (hpackages : ∀ package, .usePackage package ∈ asked → package.toList.head? ≠ some '.') :
    let h := replay lib (started registry) asked
    Locates lib registry asked type h.packages (h.locate lib type) := by
  intro h
  have hnamed : ∀ package ∈ h.packages, package.toList.head? ≠ some '.' := by
    intro package hmem
    rw [packages_replay, List.mem_eraseDups, List.mem_filterMap] at hmem
    obtain ⟨r, hr, hpackage⟩ := hmem
    cases r with
    | usePackage package' =>
      rw [Request.package?] at hpackage
      split at hpackage
      · cases hpackage
      · obtain rfl := Option.some.inj hpackage
        exact hpackages _ hr
    | _ => cases hpackage
  rw [Locates, locate, registry_replay]
  cases registered? registry asked type with
  | some c => rfl
  | none => exact searches_search hnamed

/-! ### Resolution at a point of a run -/

theorem resolve_fails {f : Fault} {h' : Host} (hrun : (resolve lib type).run h = (.error f, h')) :
    h' = h ∧ ∀ c : Constructor, c.signature ≠ .refuses →
      ((resolve lib type).run (h.register type c)).1 = .ok c := by
  rcases resolve_cases lib h type with ⟨f', hrun', hnone⟩ | ⟨c, hrun', -⟩ | ⟨c, hrun', -⟩ <;>
    rw [hrun'] at hrun
  · refine ⟨(Prod.mk.inj hrun).2.symm, fun c haccepts => ?_⟩
    have hlocate : (h.register type c).locate lib type = .ok c := by
      rw [locate, register, List.lookup_cons_self]
    rw [resolve_of_unresolved (h := h.register type c) hnone, hlocate]
    exact congrArg Prod.fst (if_pos (bne_iff_ne.2 haccepts))
  · cases hrun
  · cases hrun

/-- One package has a class of vats, and the code of another one is broken. -/
def vats : Library where
  load package :=
    if package = "client" then .module fun type =>
      .ok (if type = "Vat" then some (Synthesis.keeper "Vat" "ident") else none)
    else if package = "broken" then .raised (.foreign "SyntaxError" "invalid syntax")
    else .missing

end Grounding.Host

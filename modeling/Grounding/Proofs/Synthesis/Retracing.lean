import Grounding.Proofs.Synthesis.Observation
import Grounding.Proofs.Synthesis.Realization
import Grounding.Synthesis.Advance
import Grounding.Synthesis.Model

/-!
# Moving down after moving up

On an integer or a truth value the move down takes back the move up, and so it does on a list,
where the one takes away the element that the other has put at the end. What the element is does not
matter: moves within its type need not be taken back, and it need not even come from a move. On a
pair both moves go by components. So within an invertible type the move down leads from wherever the
move up leads to back where it came from, in models and in drivers (`predecessor_retraces`).
-/

namespace Grounding

open Synthesis Outcome

/-- Whether moves up within a type can be taken back. -/
def Descriptor.isInvertible : Descriptor → Bool
  | primitive p => p.scalar == .integral || p.scalar == .boolean
  | external _ | list _ => true
  | set _ | map _ _ => false
  | pair a b => a.isInvertible && b.isInvertible

namespace Value

/-- Values of a type that are alike in what moves of invertible types go by: the elements of lists
and the values of external types are left open. -/
inductive Retraceable : Value → Descriptor → Prop
  | integral {p : Primitive} (hp : p.scalar = .integral) (n : Int) :
      Retraceable (.int n) (.primitive p)
  | boolean {p : Primitive} (hp : p.scalar = .boolean) (b : Bool) :
      Retraceable (.bool b) (.primitive p)
  | external (x : Value) (type : String) : Retraceable x (.external type)
  | list (xs : List Value) (e : Descriptor) : Retraceable (.list xs) (.list e)
  | pair {x y : Value} {a b : Descriptor} :
      Retraceable x a → Retraceable y b → Retraceable (.pair x y) (.pair a b)

theorem retraceable_of_inhabits {d : Descriptor} {x : Value} (hx : x.Inhabits d)
    (hd : d.isInvertible = true) : x.Retraceable d := by
  induction hx with
  | @primitive p x hp =>
    unfold Primitive.Admits at hp
    simp only [Descriptor.isInvertible, Bool.or_eq_true, beq_iff_eq] at hd
    generalize hscalar : p.scalar = k at hp hd
    cases hp with
    | integral n => exact .integral hscalar n
    | boolean b => exact .boolean hscalar b
    | text s => simp at hd
    | character c => simp at hd
    | floating z => simp at hd
    | nan mark => simp at hd
  | entity name type => exact .external (.entity name) type
  | @list xs e _ _ => exact .list xs e
  | set _ _ _ => simp [Descriptor.isInvertible] at hd
  | map _ _ _ _ _ => simp [Descriptor.isInvertible] at hd
  | pair _ _ iha ihb =>
    rw [Descriptor.isInvertible, Bool.and_eq_true] at hd
    exact .pair (iha hd.1) (ihb hd.2)

theorem Retraceable.realize {d : Descriptor} {x : Value} (hx : x.Retraceable d)
    (make : String → String → Value) : (x.realize make d).Retraceable d := by
  induction hx with
  | integral hp n => exact .integral hp n
  | boolean hp b => exact .boolean hp b
  | external x type => exact .external _ type
  | list xs e => exact .list _ e
  | pair _ _ iha ihb => exact .pair iha ihb

end Value

namespace Synthesis

open Value

theorem movePrimitive_integral {p : Primitive} (hp : p.scalar = .integral) (dir : Direction)
    (n : Int) : movePrimitive dir p (.int n) =
      .ok (.int (n + match dir with | .up => 1 | .down => -1)) := by
  unfold movePrimitive
  rw [hp]
  rfl

theorem movePrimitive_boolean {p : Primitive} (hp : p.scalar = .boolean) (dir : Direction)
    (b : Bool) : movePrimitive dir p (.bool b) = .ok (.bool !b) := by
  unfold movePrimitive
  rw [hp]
  rfl

section

variable {m : Type → Type} [Monad m] [MonadExcept Fault m] {σ : Type} (o : Observation m σ)
  {s s' : σ} {ext : Externals m}

theorem exists_append_of_yields_growList {default : m Value} {step : Value → m Value}
    {xs ys : List Value} (h : o.Yields (growList default step xs) s ys s') :
    ∃ y, ys = xs ++ [y] := by
  unfold growList at h
  split at h
  · obtain ⟨y, -, hys⟩ := o.yields_map_iff.1 h
    exact ⟨y, hys.symm⟩
  · next hlast =>
    obtain ⟨y, -, hys⟩ := o.yields_map_iff.1 h
    rw [List.getLast?_eq_none_iff.1 hlast]
    exact ⟨y, hys.symm⟩

theorem yields_move_list_iff {dir : Direction} {e : Descriptor} {xs : List Value} {y : Value} :
    o.Yields (move ext dir (.list e) (.list xs)) s y s' ↔
      match dir with
      | .up => ∃ ys, o.Yields (growList (createDefault ext e) (move ext .up e) xs) s ys s' ∧
          .list ys = y
      | .down => .list xs.dropLast = y ∧ s = s' := by
  rw [move, o.yields_bind_iff]
  simp only [o.yields_checked_iff, elementsOf, elements?]
  cases dir with
  | up => simp [o.yields_map_iff]
  | down => simp [o.yields_pure_iff]

theorem yields_move_pair_iff {dir : Direction} {a b : Descriptor} {x y z : Value} :
    o.Yields (move ext dir (.pair a b) (.pair x y)) s z s' ↔
      ∃ x' s₁, o.Yields (move ext dir a x) s x' s₁ ∧
        ∃ y', o.Yields (move ext dir b y) s₁ y' s' ∧ .pair x' y' = z := by
  rw [move, o.yields_bind_iff]
  simp [o.yields_bind_iff, o.yields_checked_iff, o.yields_pure_iff, componentOf, elements?]

/-- The move down, in whatever state, takes back what the move up has led to. -/
theorem yields_predecessor_of_yields_successor {d : Descriptor} {x y : Value}
    (hx : x.Retraceable d) (h : o.Yields (successor ext d x) s y s') (t : σ) :
    o.Yields (predecessor ext d y) t x t := by
  unfold successor at h
  unfold predecessor
  induction hx generalizing s s' y t with
  | integral hp n =>
    rw [move, o.yields_checked_iff, movePrimitive_integral hp] at h
    rw [move, o.yields_checked_iff, ← Except.ok.inj h.1, movePrimitive_integral hp]
    simp only [and_true, Except.ok.injEq, int.injEq]
    omega
  | boolean hp b =>
    rw [move, o.yields_checked_iff, movePrimitive_boolean hp] at h
    rw [move, o.yields_checked_iff, ← Except.ok.inj h.1, movePrimitive_boolean hp]
    simp
  | external x type =>
    simp only [move, o.yields_pure_iff] at h ⊢
    exact ⟨h.1.symm, trivial⟩
  | list xs e =>
    obtain ⟨ys, hys, rfl⟩ := (yields_move_list_iff o).1 h
    obtain ⟨z, rfl⟩ := exists_append_of_yields_growList o hys
    apply (yields_move_list_iff o).2
    rw [List.dropLast_concat]
    exact ⟨rfl, rfl⟩
  | pair _ _ iha ihb =>
    obtain ⟨x', s₁, hx', y', hy', rfl⟩ := (yields_move_pair_iff o).1 h
    apply (yields_move_pair_iff o).2
    exact ⟨_, t, iha hx' t, _, ihb hy' t, rfl⟩

end

/-! ### Models and drivers -/

/-- Within an invertible type, the move down takes back every move up that succeeds: from a value of
the type in a model, and in a driver from one with any objects in place of the entities, in whatever
state the move down is made, which it leaves as it is. -/
theorem predecessor_retraces {d : Descriptor} {x : Value} (hd : d.isInvertible = true)
    (hx : x.Inhabits d) :
    (∀ y, successor Model.externals d x = (.ok y : Except Fault Value) →
      predecessor Model.externals d y = (.ok x : Except Fault Value)) ∧
    ∀ (lib : Library) (make : String → String → Value) (h h' t : Host) (y : Value),
      (successor (Host.externals lib) d (x.realize make d)).run h = (.ok y, h') →
        (predecessor (Host.externals lib) d y).run t = (.ok (x.realize make d), t) := by
  have hretraceable := retraceable_of_inhabits hx hd
  constructor
  · intro y hy
    have hyields : Observation.model.Yields (successor Model.externals d x) () y () := hy
    exact yields_predecessor_of_yields_successor Observation.model hretraceable hyields ()
  · intro lib make h h' t y hy
    exact yields_predecessor_of_yields_successor Observation.driver (hretraceable.realize make) hy t

/-- An empty list of numbers, whose moves cannot be taken back themselves, beside an entity for
which a driver has a text. -/
theorem predecessor_retraces_empty_list :
    let d : Descriptor := .pair (.external "Vat") (.list (.primitive .double))
    let number : Value := .list [.float (.zero false)]
    let lib : Library := ⟨fun _ => .missing⟩
    d.isInvertible = true ∧
      (Value.pair (.entity "vat1") (.list [])).Inhabits d ∧
      successor Model.externals d (.pair (.entity "vat1") (.list [])) =
        (.ok (.pair (.entity "vat1") number) : Except Fault Value) ∧
      predecessor Model.externals d (.pair (.entity "vat1") number) =
        (.ok (.pair (.entity "vat1") (.list [])) : Except Fault Value) ∧
      (successor (Host.externals lib) d (.pair (.text "vat1") (.list []))).run Host.empty =
        (.ok (.pair (.text "vat1") number), Host.empty) ∧
      (predecessor (Host.externals lib) d (.pair (.text "vat1") number)).run Host.empty =
        (.ok (.pair (.text "vat1") (.list [])), Host.empty) := by
  intro d number lib
  have hinhabits : (Value.pair (.entity "vat1") (.list [])).Inhabits d :=
    .pair (.entity "vat1" "Vat") (.list (List.forall_mem_nil _))
  have hmodel : successor Model.externals d (.pair (.entity "vat1") (.list [])) =
      (.ok (.pair (.entity "vat1") number) : Except Fault Value) :=
    rfl
  have hdriver : (successor (Host.externals lib) d (.pair (.text "vat1") (.list []))).run
      Host.empty = (.ok (.pair (.text "vat1") number), Host.empty) :=
    rfl
  obtain ⟨hback, hbackDriver⟩ := predecessor_retraces rfl hinhabits
  refine ⟨rfl, hinhabits, hmodel, hback _ hmodel, hdriver, ?_⟩
  exact hbackDriver lib (fun _ name => .text name) Host.empty Host.empty Host.empty _ hdriver

end Synthesis

end Grounding

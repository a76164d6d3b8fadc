import Grounding.Driver.Code
import Grounding.Proofs.Outcome

/-!
# Laws of emissions

An emission that does not fail has written the code of each of its parts, one after the other. One
that fails does so with the fault of a part.
-/

namespace Grounding.Emission

variable {α β : Type} {e : Emission α} {f : α → Emission β} {code : List Code}

/-! ### What is written -/

/-- An emission comes to its end with a result, and this is the code it has written. -/
def Writes (e : Emission α) (code : List Code) (a : α) : Prop := e = ⟨code, .ok a⟩

theorem exists_writes_iff {a : α} : (∃ code, e.Writes code a) ↔ e.result = .ok a := by
  obtain ⟨written, result⟩ := e
  constructor
  · rintro ⟨code, h⟩
    cases h
    rfl
  · rintro rfl
    exact ⟨written, rfl⟩

theorem Writes.code_eq {a : α} (h : e.Writes code a) : e.code = code := by
  rw [h]

theorem pure_writes_iff {a b : α} :
    (Pure.pure a : Emission α).Writes code b ↔ code = [] ∧ a = b := by
  constructor
  · intro h
    cases h
    exact ⟨rfl, rfl⟩
  · rintro ⟨rfl, rfl⟩
    rfl

theorem bind_writes_iff {b : β} : (e >>= f).Writes code b ↔
    ∃ first a second, e.Writes first a ∧ (f a).Writes second b ∧ code = first ++ second := by
  obtain ⟨first, result⟩ := e
  cases result with
  | error fault =>
    refine iff_of_false (fun h => nomatch congrArg Emission.result h) ?_
    rintro ⟨_, _, _, h, -⟩
    cases h
  | ok a =>
    constructor
    · intro h
      have hresult : (f a).result = .ok b := congrArg Emission.result h
      obtain ⟨second, hsecond⟩ := exists_writes_iff.2 hresult
      refine ⟨first, a, second, rfl, hsecond, ?_⟩
      rw [← hsecond.code_eq]
      exact (congrArg Emission.code h).symm
    · rintro ⟨_, _, second, h, hsecond, rfl⟩
      cases h
      show (⟨first ++ (f a).code, (f a).result⟩ : Emission β) = ⟨first ++ second, .ok b⟩
      rw [hsecond]

theorem write_writes_iff {written : List Code} :
    (write written).Writes code () ↔ code = written := by
  constructor
  · intro h
    cases h
    rfl
  · rintro rfl
    rfl

theorem statements_writes_iff {ss : List Statement} :
    (statements ss).Writes code () ↔ code = ss.map .statement :=
  write_writes_iff

theorem statement_writes_iff {s : Statement} :
    (statement s).Writes code () ↔ code = [.statement s] :=
  statements_writes_iff

theorem block_writes_iff {header : String} {a : α} :
    (block header e).Writes code a ↔ ∃ body, e.Writes body a ∧ code = [.block header body] := by
  obtain ⟨written, result⟩ := e
  constructor
  · intro h
    cases h
    exact ⟨written, rfl, rfl⟩
  · rintro ⟨body, h, rfl⟩
    cases h
    rfl

theorem calculate_writes_iff {r : Except Fault α} {a : α} :
    (calculate r).Writes code a ↔ r = .ok a ∧ code = [] := by
  constructor
  · intro h
    cases h
    exact ⟨rfl, rfl⟩
  · rintro ⟨rfl, rfl⟩
    rfl

theorem calculate_bind_writes_iff {r : Except Fault α} {b : β} :
    (calculate r >>= f).Writes code b ↔ ∃ a, r = .ok a ∧ (f a).Writes code b := by
  rw [bind_writes_iff]
  constructor
  · rintro ⟨_, a, second, h, hsecond, rfl⟩
    obtain ⟨hr, rfl⟩ := calculate_writes_iff.1 h
    exact ⟨a, hr, hsecond⟩
  · rintro ⟨a, hr, h⟩
    exact ⟨[], a, code, calculate_writes_iff.2 ⟨hr, rfl⟩, h, rfl⟩

theorem write_bind_writes_iff {written : List Code} {f : Unit → Emission β} {b : β} :
    (write written >>= f).Writes code b ↔
      ∃ second, (f ()).Writes second b ∧ code = written ++ second := by
  rw [bind_writes_iff]
  constructor
  · rintro ⟨first, a, second, hfirst, hsecond, rfl⟩
    exact ⟨second, hsecond, by rw [write_writes_iff.1 hfirst]⟩
  · rintro ⟨second, hsecond, rfl⟩
    exact ⟨written, (), second, write_writes_iff.2 rfl, hsecond, rfl⟩

theorem flatMap_code_eq {ι : Type} {e : ι → Emission Unit} {is : List ι} {parts : List (List Code)}
    (h : List.Forall₂ (fun i part => (e i).Writes part ()) is parts) :
    is.flatMap (fun i => (e i).code) = parts.flatten := by
  induction h with
  | nil => rfl
  | cons hpart _ ih => rw [List.flatMap_cons, List.flatten_cons, hpart.code_eq, ih]

/-! ### Faults -/

theorem result_bind : (e >>= f).result = e.result >>= fun a => (f a).result := by
  obtain ⟨first, result⟩ := e
  cases result <;> rfl

/-- An emission does not fail but with a fault of some kind. -/
def FailsOnly (P : Fault → Prop) (e : Emission α) : Prop := Outcome.FailsOnly P e.result

variable {P : Fault → Prop}

theorem failsOnly_pure (a : α) : FailsOnly P (Pure.pure a : Emission α) :=
  Outcome.failsOnly_pure a

theorem failsOnly_write (written : List Code) : FailsOnly P (write written) :=
  Outcome.failsOnly_pure ()

theorem failsOnly_statement (s : Statement) : FailsOnly P (statement s) :=
  failsOnly_write _

theorem FailsOnly.bind (he : FailsOnly P e) (hf : ∀ a, FailsOnly P (f a)) :
    FailsOnly P (e >>= f) := by
  rw [FailsOnly, result_bind]
  exact Outcome.FailsOnly.bind he fun a _ => hf a

theorem FailsOnly.block (he : FailsOnly P e) (header : String) : FailsOnly P (block header e) := he

theorem FailsOnly.calculate {r : Except Fault α} (hr : Outcome.FailsOnly P r) :
    FailsOnly P (calculate r) := hr

end Grounding.Emission

import Mathlib.Data.List.Forall2

/-!
# Lists that are related item by item

Where each item of one list is related to the item of another at the same place.
-/

namespace Grounding.Itemwise

variable {α β γ : Type} {R : α → β → Prop}

theorem exists_forall₂ {as : List α} (h : ∀ a ∈ as, ∃ b, R a b) : ∃ bs, List.Forall₂ R as bs := by
  induction as with
  | nil => exact ⟨[], .nil⟩
  | cons a as ih =>
    rw [List.forall_mem_cons] at h
    obtain ⟨⟨b, hb⟩, htail⟩ := h
    obtain ⟨bs, hbs⟩ := ih htail
    exact ⟨b :: bs, .cons hb hbs⟩

theorem exists_mem_of_forall₂ {as : List α} {bs : List β} (h : List.Forall₂ R as bs) :
    ∀ b ∈ bs, ∃ a ∈ as, R a b := by
  induction h with
  | nil => simp
  | cons hab _ ih =>
    rw [List.forall_mem_cons]
    refine ⟨⟨_, List.mem_cons_self, hab⟩, fun b hb => ?_⟩
    obtain ⟨a, ha, hrel⟩ := ih b hb
    exact ⟨a, List.mem_cons_of_mem _ ha, hrel⟩

theorem exists_forall₂_iff {as : List α} :
    (∃ bs, List.Forall₂ R as bs) ↔ ∀ a ∈ as, ∃ b, R a b := by
  constructor
  · rintro ⟨bs, hbs⟩ a ha
    obtain ⟨b, -, hab⟩ := exists_mem_of_forall₂ hbs.flip a ha
    exact ⟨b, hab⟩
  · exact exists_forall₂

theorem forall₂_imp_of_mem {S : α → β → Prop} {as : List α} {bs : List β}
    (h : List.Forall₂ R as bs) (himp : ∀ a ∈ as, ∀ b, R a b → S a b) : List.Forall₂ S as bs :=
  ((List.forall₂_and_left as bs).2 ⟨himp, h⟩).imp fun _ b hab => hab.1 b hab.2

theorem map_eq_map_iff_forall₂ {f : α → γ} {g : β → γ} {as : List α} {bs : List β} :
    as.map f = bs.map g ↔ List.Forall₂ (fun a b => f a = g b) as bs := by
  rw [← List.forall₂_eq_eq_eq, List.forall₂_map_left_iff, List.forall₂_map_right_iff]

theorem forall_mem_zipIdx_fst {P : α → Prop} {as : List α} {k : Nat} :
    (∀ ai ∈ as.zipIdx k, P ai.1) ↔ ∀ a ∈ as, P a := by
  rw [← List.forall_mem_map, List.zipIdx_map_fst]

theorem exists_forall₂_between {S : α → γ → Prop} {T : β → γ → Prop} {as : List α} {bs : List β}
    (h : List.Forall₂ (fun a b => ∃ c, S a c ∧ T b c) as bs) :
    ∃ cs, List.Forall₂ S as cs ∧ List.Forall₂ T bs cs := by
  induction h with
  | nil => exact ⟨[], .nil, .nil⟩
  | cons hab _ ih =>
    obtain ⟨c, hac, hbc⟩ := hab
    obtain ⟨cs, hacs, hbcs⟩ := ih
    exact ⟨c :: cs, .cons hac hacs, .cons hbc hbcs⟩

end Grounding.Itemwise

import Grounding.Proofs.Itemwise
import Grounding.Proofs.Json.Grammar
import Grounding.Proofs.Number.Decimal
import Grounding.Proofs.Text.Hexadecimal

/-!
# Every value has a JSON text

Each string can be written, as can each integer that is not too long, each list of values that can
be written, and each record of such values whose fields have different names.
-/

namespace Grounding.Json

open Text Itemwise

variable {allowed : Nat → Prop}

/-! ### Strings -/

theorem exists_writesChar (c : Char) : ∃ form, WritesChar c form := by
  by_cases hlow : c.toNat < 0x20
  · have hread : hexNumber? (hexText smallHexDigits 4 c.toNat) = some c.toNat :=
      hexNumber?_hexText isHexDigits_small (Nat.lt_trans hlow (by decide))
    exact ⟨_, .unit ⟨_, length_hexText 4 c.toNat, hread, rfl⟩⟩
  · by_cases hquote : c = '"'
    · exact ⟨_, .short (e := '"') (by rw [hquote]; decide)⟩
    · by_cases hescape : c = '\\'
      · exact ⟨_, .short (e := '\\') (by rw [hescape]; decide)⟩
      · exact ⟨_, .plain (by omega) hquote hescape⟩

theorem exists_writesString (s : String) : ∃ text, WritesString s text := by
  obtain ⟨forms, hforms⟩ := exists_forall₂ fun c (_ : c ∈ s.toList) => exists_writesChar c
  exact ⟨_, forms, hforms, rfl⟩

def needsNoEscape (c : Char) : Bool := 0x20 ≤ c.toNat && c != '"' && c != '\\'

theorem writesString_plain {s : String} (h : s.toList.all needsNoEscape = true) :
    WritesString s ('"' :: s.toList ++ ['"']) := by
  refine ⟨s.toList.map fun c => [c], List.forall₂_map_right_iff.2 (List.forall₂_same.2 ?_), ?_⟩
  · intro c hc
    have hplain := List.all_eq_true.1 h c hc
    simp only [needsNoEscape, Bool.and_eq_true, decide_eq_true_eq, bne_iff_ne] at hplain
    exact .plain hplain.1.1 hplain.1.2 hplain.2
  · rw [← List.flatMap_def, List.flatMap_singleton']

/-! ### Integers -/

theorem head?_toDigits {n : Nat} (hn : 0 < n) : (Nat.toDigits 10 n).head? ≠ some '0' := by
  induction n using Nat.strong_induction_on with
  | _ n ih =>
    by_cases hlt : n < 10
    · rw [Nat.toDigits_of_lt_base hlt]
      interval_cases n <;> decide
    · rw [Nat.toDigits_of_base_le (by decide) (by omega),
        List.head?_append_of_ne_nil _ Nat.toDigits_ne_nil]
      exact ih (n / 10) (by omega) (by omega)

theorem isWhole_toDigits (n : Nat) : IsWhole (Nat.toDigits 10 n) := by
  refine ⟨⟨Nat.toDigits_ne_nil, fun d hd => Numeral.isDigit_toDigits hd⟩, fun hzero => ?_⟩
  rcases Nat.eq_zero_or_pos n with rfl | hn
  · rfl
  · exact absurd hzero (head?_toDigits hn)

theorem numberOf_toDigits (n : Int) :
    numberOf (decide (n < 0)) (Nat.toDigits 10 n.natAbs) [] none = .int n := by
  have hdigits : Numeral.ofDigits (Nat.toDigits 10 n.natAbs) = n.natAbs :=
    Nat.ofDigitChars_ten_toDigits
  show Json.int (Binary64.signed _ _) = _
  rw [hdigits, Binary64.signed]
  congr 1
  by_cases hneg : n < 0
  · rw [decide_eq_true hneg, if_pos rfl]
    omega
  · rw [decide_eq_false hneg, if_neg Bool.false_ne_true]
    omega

theorem exists_writes_int {n : Int} (hn : Numeral.isWritable n = true) :
    ∃ text, Writes (· ≤ Numeral.digitLimit) (.int n) text := by
  have hlength : (Nat.toDigits 10 n.natAbs).length ≤ Numeral.digitLimit := by
    rw [Nat.length_toDigits_le_iff (by decide) (by decide)]
    exact of_decide_eq_true hn
  rw [← numberOf_toDigits n]
  exact ⟨_, .number (isWhole_toDigits n.natAbs) hlength nofun .none⟩

/-! ### Lists and records -/

theorem isBlank_nil : IsBlank [] := nofun

theorem exists_writes_array {values : List Json}
    (h : ∀ j ∈ values, ∃ text, Writes allowed j text) :
    ∃ text, Writes allowed (.array values) text := by
  have hitems : ∃ items : List Item, items.map Item.value = values ∧ (∀ i ∈ items, i.IsSpaced) ∧
      ∀ i ∈ items, Writes allowed i.value i.text := by
    induction values with
    | nil => exact ⟨[], rfl, nofun, nofun⟩
    | cons j values ih =>
      rw [List.forall_mem_cons] at h
      obtain ⟨⟨text, htext⟩, hrest⟩ := h
      obtain ⟨items, rfl, hspaced, hwrites⟩ := ih hrest
      exact ⟨⟨[], j, text, []⟩ :: items, rfl,
        List.forall_mem_cons.2 ⟨⟨isBlank_nil, isBlank_nil⟩, hspaced⟩,
        List.forall_mem_cons.2 ⟨htext, hwrites⟩⟩
  obtain ⟨items, rfl, hspaced, hwrites⟩ := hitems
  cases items with
  | nil => exact ⟨_, .emptyArray isBlank_nil⟩
  | cons item items => exact ⟨_, .array (List.cons_ne_nil item items) hspaced hwrites⟩

theorem putMember_of_notMem {name : String} {j : Json} {members : List (String × Json)}
    (h : name ∉ members.map Prod.fst) : putMember name j members = members ++ [(name, j)] := by
  induction members with
  | nil => rfl
  | cons m members ih =>
    obtain ⟨other, i⟩ := m
    rw [List.map_cons, List.mem_cons, not_or] at h
    rw [putMember, if_neg (by simpa using Ne.symm h.1), ih h.2, List.cons_append]

theorem foldl_putMember {fields before : List (String × Json)}
    (h : ((before ++ fields).map Prod.fst).Nodup) :
    fields.foldl (fun members f => putMember f.1 f.2 members) before = before ++ fields := by
  induction fields generalizing before with
  | nil => rw [List.foldl_nil, List.append_nil]
  | cons f fields ih =>
    have hnew : f.1 ∉ before.map Prod.fst := by
      rw [List.map_append, List.nodup_append] at h
      exact fun hmem => h.2.2 f.1 hmem f.1 List.mem_cons_self rfl
    rw [List.foldl_cons, putMember_of_notMem hnew, ih (by simpa using h), List.append_assoc,
      List.singleton_append]

theorem exists_writes_object {fields : List (String × Json)}
    (hdistinct : (fields.map Prod.fst).Nodup)
    (h : ∀ f ∈ fields, ∃ text, Writes allowed f.2 text) :
    ∃ text, Writes allowed (.object fields) text := by
  have hmembers : ∃ members : List Member,
      members.map (fun m => (m.name, m.item.value)) = fields ∧ (∀ m ∈ members, m.IsSpaced) ∧
        ∀ m ∈ members, Writes allowed m.item.value m.item.text := by
    clear hdistinct
    induction fields with
    | nil => exact ⟨[], rfl, nofun, nofun⟩
    | cons f fields ih =>
      rw [List.forall_mem_cons] at h
      obtain ⟨⟨text, htext⟩, hrest⟩ := h
      obtain ⟨members, rfl, hspaced, hwrites⟩ := ih hrest
      obtain ⟨name, hname⟩ := exists_writesString f.1
      exact ⟨⟨[], f.1, name, [], ⟨[], f.2, text, []⟩⟩ :: members, rfl,
        List.forall_mem_cons.2
          ⟨⟨isBlank_nil, hname, isBlank_nil, isBlank_nil, isBlank_nil⟩, hspaced⟩,
        List.forall_mem_cons.2 ⟨htext, hwrites⟩⟩
  obtain ⟨members, rfl, hspaced, hwrites⟩ := hmembers
  have hmerged : membersOf members = members.map fun m => (m.name, m.item.value) := by
    have h : (members.map fun m => (m.name, m.item.value)).foldl
        (fun fields f => putMember f.1 f.2 fields) [] =
          [] ++ members.map fun m => (m.name, m.item.value) := foldl_putMember hdistinct
    rwa [List.foldl_map, List.nil_append] at h
  rw [← hmerged]
  cases members with
  | nil => exact ⟨_, .emptyObject isBlank_nil⟩
  | cons member members => exact ⟨_, .object (List.cons_ne_nil member members) hspaced hwrites⟩

end Grounding.Json

import Grounding.Proofs.Text.Hexadecimal
import Grounding.Text.Percent

/-!
# Segments of a path

Every octet of a text has one form in a segment of a path, and the forms can be told apart. So the
octets come back from a segment, and with them the text. No form holds the slash that ends a
segment.
-/

namespace Grounding.Text

/-- The text that a segment stands for, if its octets are the UTF-8 form of one. -/
def percentDecode? (segment : List Char) : Option String :=
  (percentOctets? segment).bind fun octets => String.fromUTF8? octets.toByteArray

/-! ### Octets -/

theorem utf8EncodeChar_of_isUnreserved {octet : UInt8} (h : isUnreserved octet = true) :
    String.utf8EncodeChar (Char.ofNat octet.toNat) = [octet] := by
  rw [isUnreserved, Bool.and_eq_true, decide_eq_true_eq, UInt8.lt_iff_toNat_lt] at h
  have hlow : octet.toNat < 128 := h.1
  have hvalid : octet.toNat.isValidChar := .inl (by omega)
  have hval : (Char.ofNat octet.toNat).val.toNat = octet.toNat := by
    rw [Char.ofNat, dif_pos hvalid]
    rfl
  have hfirst : (Char.ofNat octet.toNat).val.toNat ≤ 127 := by omega
  rw [String.utf8EncodeChar, if_pos hfirst, hval, UInt8.ofNat_toNat]

theorem ne_of_isUnreserved {octet : UInt8} (h : isUnreserved octet = true) {c : Char}
    (hc : (c.isAlphanum || c == '_' || c == '.' || c == '-' || c == '~') = false) :
    Char.ofNat octet.toNat ≠ c := by
  rintro rfl
  rw [isUnreserved, Bool.and_eq_true] at h
  rw [hc] at h
  exact Bool.noConfusion h.2

theorem percentOctets?_append (octet : UInt8) (rest : List Char) :
    percentOctets? (percentOctet octet ++ rest) = (percentOctets? rest).map (octet :: ·) := by
  rw [percentOctet]
  split
  · next h =>
    have hne : Char.ofNat octet.toNat ≠ '%' := ne_of_isUnreserved h (by decide)
    rw [List.singleton_append, percentOctets?]
    · rw [utf8EncodeChar_of_isUnreserved h]
      rfl
    · exact fun _ _ _ hpercent _ => hne hpercent
    · exact hne
  · have hnumber : hexNumber? (hexText capitalHexDigits 2 octet.toNat) = some octet.toNat :=
      hexNumber?_hexText isHexDigits_capital octet.toNat_lt
    have hlength : (hexText capitalHexDigits 2 octet.toNat).length = 2 := length_hexText 2 _
    obtain ⟨a, b, hab⟩ := List.length_eq_two.1 hlength
    rw [hab] at hnumber
    rw [hab, List.cons_append, List.cons_append, List.cons_append, List.nil_append,
      percentOctets?, hnumber]
    cases percentOctets? rest with
    | none => rfl
    | some octets => exact congrArg some (congrArg (· :: octets) UInt8.ofNat_toNat)

theorem percentOctets?_flatMap (octets : List UInt8) :
    percentOctets? (octets.flatMap percentOctet) = some octets := by
  induction octets with
  | nil => rfl
  | cons octet octets ih => rw [List.flatMap_cons, percentOctets?_append, ih, Option.map_some]

theorem slash_notMem_percentOctet (octet : UInt8) : '/' ∉ percentOctet octet := by
  rw [percentOctet]
  split
  · next h =>
    rw [List.mem_singleton]
    exact (ne_of_isUnreserved h (by decide)).symm
  · have hdigits : (hexText capitalHexDigits 2 octet.toNat).all (· != '/') = true :=
      all_hexText (by decide) (by decide) 2 octet.toNat
    rw [List.mem_cons, not_or]
    refine ⟨by decide, ?_⟩
    intro hmem
    exact absurd (List.all_eq_true.1 hdigits '/' hmem) (by decide)

/-! ### Texts -/

theorem toList_percentEncode (s : String) : (percentEncode s).toList =
    (s.toList.flatMap String.utf8EncodeChar).flatMap percentOctet :=
  String.toList_ofList

theorem percentDecode?_percentEncode (s : String) :
    percentDecode? (percentEncode s).toList = some s := by
  have hoctets : (s.toList.flatMap String.utf8EncodeChar).toByteArray = s.toByteArray := by
    conv_rhs => rw [← String.ofList_toList (s := s), String.toByteArray_ofList]
    rfl
  rw [percentDecode?, toList_percentEncode, percentOctets?_flatMap, Option.bind_some, hoctets]
  exact dif_pos s.isValidUTF8

theorem slash_notMem_percentEncode (s : String) : '/' ∉ (percentEncode s).toList := by
  rw [toList_percentEncode, List.mem_flatMap]
  rintro ⟨octet, -, hmem⟩
  exact slash_notMem_percentOctet octet hmem

end Grounding.Text

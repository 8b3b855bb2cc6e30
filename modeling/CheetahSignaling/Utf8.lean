import Mathlib.Data.List.Basic
import Mathlib.Data.String.Basic

/-! Texts as lists of UTF-8 bytes. -/
namespace CheetahSignaling.Utf8

theorem fromUTF8_toUTF8 (s : String) : String.fromUTF8? s.toUTF8 = some s := by
  have valid : s.toUTF8.IsValidUTF8 := s.isValidUTF8
  rw [String.fromUTF8?,dif_pos valid]
  rfl

theorem bytes_toUTF8 (s : String) : s.toUTF8.data.toList = s.toList.flatMap String.utf8EncodeChar := by
  have encoded : s.toUTF8 = s.toList.utf8Encode := by
    rw [← String.toByteArray_ofList,String.ofList_toList]
    rfl
  rw [encoded,List.utf8Encode,List.data_toByteArray]

/-- `str::as_bytes`. -/
def bytes (s : String) : List UInt8 := s.toUTF8.data.toList

/-- `str::from_utf8`. -/
def text (bytes : List UInt8) : Option String := String.fromUTF8? ⟨bytes.toArray⟩

theorem bytes_eq (s : String) : bytes s = s.toList.flatMap String.utf8EncodeChar := bytes_toUTF8 s

theorem text_bytes (s : String) : text (bytes s) = some s := fromUTF8_toUTF8 s

theorem bytes_of_text (read : text b = some s) : bytes s = b := by
  unfold text String.fromUTF8? at read
  split at read
  · cases read
    rfl
  · cases read

theorem bytes_append (s t : String) : bytes (s ++ t) = bytes s ++ bytes t := by
  rw [bytes_eq,bytes_eq,bytes_eq,String.toList_append,List.flatMap_append]

theorem length_bytes : (bytes s).length = s.utf8ByteSize := rfl

theorem toNat_ofNat_high (least : 128 ≤ n) (small : n < 256) : 128 ≤ (UInt8.ofNat n).toNat := by
  rw [UInt8.toNat_ofNat',Nat.mod_eq_of_lt small]
  exact least

/-- The bytes of a character: itself for ASCII, otherwise none that is ASCII. -/
theorem utf8EncodeChar_cases : (c.toNat < 128 ∧ String.utf8EncodeChar c = [UInt8.ofNat c.toNat]) ∨
      (128 ≤ c.toNat ∧ ∀ b ∈ String.utf8EncodeChar c, 128 ≤ b.toNat) := by
  have value : c.toNat = c.val.toNat := rfl
  simp only [String.utf8EncodeChar]
  split_ifs with ascii two three
  · exact .inl ⟨by omega,rfl⟩
  all_goals
    refine .inr ⟨by omega,?_⟩
    simp
  · exact ⟨toNat_ofNat_high (by omega) (by omega),toNat_ofNat_high (by omega) (by omega)⟩
  · exact ⟨toNat_ofNat_high (by omega) (by omega),toNat_ofNat_high (by omega) (by omega),toNat_ofNat_high (by omega) (by omega)⟩
  · exact ⟨toNat_ofNat_high (by omega) (by omega),toNat_ofNat_high (by omega) (by omega),toNat_ofNat_high (by omega) (by omega),
      toNat_ofNat_high (by omega) (by omega)⟩

end CheetahSignaling.Utf8

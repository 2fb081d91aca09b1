import Issuance.Fingerprint
import Issuance.X509.Certificate

/-! The fingerprint of a certificate is written as the service searches for it. -/

namespace Issuance

/-- The digits of bytes are those of numbers below sixteen. -/
theorem Text.of_mem_hexOfBytes {bytes : Bytes} {c : Char} (member : c ∈ hexOfBytes bytes) :
    ∃ value < 16, c = hexDigit value := by
  obtain ⟨byte, _, digit⟩ := List.mem_flatMap.mp member
  -- A byte has two digits, the one of its upper and the one of its lower half.
  simp only [hexFixed, List.nil_append, List.cons_append, List.mem_cons, List.not_mem_nil,
    or_false] at digit
  rcases digit with rfl | rfl
  · exact ⟨byte.toNat / 16 % 16, Nat.mod_lt _ (by decide), rfl⟩
  · exact ⟨byte.toNat % 16, Nat.mod_lt _ (by decide), rfl⟩

namespace Fingerprint

/-- A digit in upper case is no separator, and stays as it is in upper case. -/
theorem upperChar_hexDigit : ∀ value < 16,
    isSeparator (Text.hexDigit value).toUpper = false ∧
      Text.upperChar (Text.hexDigit value).toUpper = [(Text.hexDigit value).toUpper] := by
  decide

/-- The spelling of a certificate's fingerprint is the one that others are brought to. -/
theorem normalize_fingerprint (certificate : X509.Certificate) :
    normalize certificate.fingerprint = certificate.fingerprint := by
  have digit : ∀ c ∈ certificate.fingerprint.toList,
      isSeparator c = false ∧ Text.upperChar c = [c] := by
    intro c member
    unfold X509.Certificate.fingerprint at member
    rw [String.toList_ofList] at member
    obtain ⟨lower, there, rfl⟩ := List.mem_map.mp member
    obtain ⟨value, small, rfl⟩ := Text.of_mem_hexOfBytes there
    exact upperChar_hexDigit value small
  -- There is no separator to leave out, and no letter that has another upper case.
  have kept : certificate.fingerprint.toList.filter (!isSeparator ·) =
      certificate.fingerprint.toList :=
    List.filter_eq_self.mpr fun c member => by rw [(digit c member).1]; rfl
  have same : certificate.fingerprint.toList.flatMap Text.upperChar =
      certificate.fingerprint.toList.flatMap (fun c => [c]) := by
    rw [List.flatMap_def, List.flatMap_def, List.map_congr_left fun c member => (digit c member).2]
  unfold normalize Text.upper
  rw [kept, String.ofList_toList, same, List.flatMap_singleton', String.ofList_toList]

end Fingerprint

end Issuance
